import EventQuery.Proofs.Double.Value

/-!
Rounding is exact.

A quotient is rounded by bringing it to the exponent of its leading digit, so that the
significand of the result is the integer nearest to what is left.

* `RoundsTo`: the nearest integer to a number, the even one of two;
  `roundsTo_nearestEven`: so are quotients rounded.
* `BinaryFormat.Rounds`: the nearest number of a binary format, the one with the even
  significand of two; `BinaryFormat.rounds_nearest`: so are quotients rounded to a format.
* `Finite.IsNearest`: the nearest double to a number; `Finite.exists_ofRatio?`: below
  `2 ^ 1023` a quotient is rounded to it, and never to infinity.
* `Finite.IsNearest.value_eq`: what is a double already is not changed.
-/

namespace EventQuery

/-! ### The nearest integer -/

/-- A natural number that `t` is rounded to: no integer is nearer to `t`, and if another
one is as near, it is even. -/
structure RoundsTo (t : ℚ) (n : Nat) : Prop where
  nearest : ∀ j : Int, |(n : ℚ) - t| ≤ |(j : ℚ) - t|
  even : ∀ j : Int, |(n : ℚ) - t| = |(j : ℚ) - t| → j ≠ n → n % 2 = 0

lemma abs_sub_div (num : Nat) {den : Nat} (hden : 0 < den) (j : Int) :
    |(j : ℚ) - num / den| = ((den * j - num : Int).natAbs : ℚ) / den := by
  have hpos : (0 : ℚ) < den := by exact_mod_cast hden
  have hsub : (j : ℚ) - num / den = ((den * j - num : Int) : ℚ) / den := by
    push_cast
    field_simp
  rw [hsub, abs_div, abs_of_pos hpos, Nat.cast_natAbs, Int.cast_abs]

/-- Where a multiple of a number lies, counted in steps of that number. -/
lemma mul_sub_cases (den q : Nat) (j : Int) :
    (j < q ∧ den * (j - q) ≤ -(den : Int)) ∨ (j = q ∧ den * (j - q) = 0) ∨
      (j = q + 1 ∧ den * (j - q) = den) ∨ (q + 1 < j ∧ 2 * (den : Int) ≤ den * (j - q)) := by
  rcases lt_trichotomy j q with h | h | h
  · exact .inl ⟨h, by nlinarith⟩
  · exact .inr (.inl ⟨h, by simp [h]⟩)
  · rcases eq_or_lt_of_le (show (q : Int) + 1 ≤ j by omega) with h | h
    · exact .inr (.inr (.inl ⟨h.symm, by simp [← h]⟩))
    · exact .inr (.inr (.inr ⟨h, by nlinarith⟩))

/-- No integer is nearer to a quotient than the rounded one. -/
lemma nearestEven_natAbs (num : Nat) {den : Nat} (hden : 0 < den) (j : Int) :
    (den * nearestEven num den - num : Int).natAbs ≤ (den * j - num : Int).natAbs ∧
      ((den * nearestEven num den - num : Int).natAbs = (den * j - num : Int).natAbs →
        j ≠ nearestEven num den → nearestEven num den % 2 = 0) := by
  have hnum : (num : Int) = den * (num / den : Nat) + (num % den : Nat) := by
    exact_mod_cast (Nat.div_add_mod num den).symm
  have hlt : num % den < den := Nat.mod_lt num hden
  have hround : nearestEven num den = if 2 * (num % den) < den then num / den
      else if den < 2 * (num % den) then num / den + 1
      else if num / den % 2 = 0 then num / den else num / den + 1 := rfl
  generalize num / den = q at hnum hround
  generalize num % den = r at hnum hlt hround
  generalize nearestEven num den = n at hround
  -- the distances of integers to the quotient differ by multiples of the denominator
  have hsteps : ∀ i : Int, (den * i - num : Int) = den * (i - q) - r := by
    intro i
    rw [hnum]
    ring
  have hj := mul_sub_cases den q j
  have hn := mul_sub_cases den q n
  rw [hsteps, hsteps]
  generalize (den * (j - q) : Int) = w at hj
  generalize (den * (n - q) : Int) = v at hn
  split_ifs at hround <;> omega

/-- A quotient is rounded to the nearest integer. -/
lemma roundsTo_nearestEven (num : Nat) {den : Nat} (hden : 0 < den) :
    RoundsTo (num / den) (nearestEven num den) := by
  have hpos : (0 : ℚ) < den := by exact_mod_cast hden
  have hdist := abs_sub_div num hden
  constructor
  · intro j
    rw [← Int.cast_natCast, hdist, hdist, div_le_div_iff_of_pos_right hpos]
    exact_mod_cast (nearestEven_natAbs num hden j).1
  · intro j heq hne
    rw [← Int.cast_natCast, hdist, hdist, div_left_inj' hpos.ne'] at heq
    exact (nearestEven_natAbs num hden j).2 (by exact_mod_cast heq) hne

/-- Rounding does not pass an integer. -/
lemma RoundsTo.le_of_le {t : ℚ} {n b : Nat} (h : RoundsTo t n) (ht : t ≤ b) : n ≤ b := by
  by_contra hlt
  have hb : (b : ℚ) < n := by exact_mod_cast not_le.mp hlt
  have hnear := h.nearest b
  rw [Int.cast_natCast, abs_of_nonneg (by linarith), abs_of_nonneg (by linarith)] at hnear
  linarith

lemma RoundsTo.ge_of_ge {t : ℚ} {n b : Nat} (h : RoundsTo t n) (ht : b ≤ t) : b ≤ n := by
  by_contra hlt
  have hb : (n : ℚ) < b := by exact_mod_cast not_le.mp hlt
  have hnear := h.nearest b
  rw [Int.cast_natCast, abs_of_nonpos (by linarith), abs_of_nonpos (by linarith)] at hnear
  linarith

/-! ### The exponent of the leading digit -/

lemma scaleRatio_pos (num : Nat) {den : Nat} (hden : 0 < den) (e : Int) :
    0 < (scaleRatio num den e).2 := by
  rw [scaleRatio]
  split
  · exact Nat.mul_pos hden (Nat.pow_pos (by decide))
  · exact hden

/-- Scaling divides by a power of two. -/
lemma scaleRatio_eq (num den : Nat) (e : Int) :
    ((scaleRatio num den e).1 : ℚ) / (scaleRatio num den e).2 = num / den / 2 ^ e := by
  rw [scaleRatio]
  split
  · rename_i he
    obtain ⟨k, rfl⟩ := Int.eq_ofNat_of_zero_le he
    rw [Int.toNat_natCast, Nat.pow_eq, zpow_natCast]
    push_cast
    rw [div_div]
  · rename_i he
    obtain ⟨k, rfl⟩ : ∃ k : Nat, e = -(k : Int) := ⟨(-e).toNat, by omega⟩
    rw [neg_neg, Int.toNat_natCast, Nat.pow_eq, zpow_neg, zpow_natCast, div_inv_eq_mul]
    push_cast
    rw [div_mul_eq_mul_div]

/-- The binary order of a quotient is the exponent of its leading digit. -/
lemma binaryOrder_spec {num den : Nat} (hnum : 0 < num) (hden : 0 < den) :
    (2 : ℚ) ^ binaryOrder num den ≤ num / den ∧
      (num / den : ℚ) < 2 ^ (binaryOrder num den + 1) := by
  have hpos : (0 : ℚ) < den := by exact_mod_cast hden
  have htwo : (2 : ℚ) ≠ 0 := two_ne_zero
  have hnum_ge : (2 : ℚ) ^ num.log2 ≤ num := by exact_mod_cast Nat.log2_self_le hnum.ne'
  have hnum_lt : (num : ℚ) < 2 ^ (num.log2 + 1) := by exact_mod_cast Nat.lt_log2_self
  have hden_ge : (2 : ℚ) ^ den.log2 ≤ den := by exact_mod_cast Nat.log2_self_le hden.ne'
  have hden_lt : (den : ℚ) < 2 ^ (den.log2 + 1) := by exact_mod_cast Nat.lt_log2_self
  have hguess : ∃ g : Int, g = (num.log2 : Int) - den.log2 ∧ binaryOrder num den =
      if (scaleRatio num den g).1 < (scaleRatio num den g).2 then g - 1 else g := ⟨_, rfl, rfl⟩
  obtain ⟨g, hg, horder⟩ := hguess
  have hlow : (2 : ℚ) ^ (g - 1) ≤ num / den := by
    rw [le_div_iff₀ hpos]
    calc (2 : ℚ) ^ (g - 1) * den ≤ 2 ^ (g - 1) * 2 ^ (den.log2 + 1) := by gcongr
      _ = 2 ^ num.log2 := by
        rw [← zpow_natCast, ← zpow_natCast, ← zpow_add₀ htwo]
        congr 1
        push_cast
        omega
      _ ≤ num := hnum_ge
  have hhigh : (num / den : ℚ) < 2 ^ (g + 1) := by
    rw [div_lt_iff₀ hpos]
    calc (num : ℚ) < 2 ^ (num.log2 + 1) := hnum_lt
      _ = 2 ^ (g + 1) * 2 ^ den.log2 := by
        rw [← zpow_natCast, ← zpow_natCast, ← zpow_add₀ htwo]
        congr 1
        push_cast
        omega
      _ ≤ 2 ^ (g + 1) * den := by gcongr
  -- the guess is one too large exactly if the scaled quotient is below one
  have hless : (scaleRatio num den g).1 < (scaleRatio num den g).2 ↔ (num / den : ℚ) < 2 ^ g := by
    have hscaled : (0 : ℚ) < (scaleRatio num den g).2 := by exact_mod_cast scaleRatio_pos num hden g
    rw [← div_lt_one₀ (zpow_pos two_pos g), ← scaleRatio_eq, div_lt_one₀ hscaled, Nat.cast_lt]
  rw [horder]
  split
  · rename_i h
    rw [sub_add_cancel]
    exact ⟨hlow, hless.mp h⟩
  · rename_i h
    exact ⟨not_lt.mp fun hlt => h (hless.mpr hlt), hhigh⟩

/-! ### The nearest number of a format -/

namespace BinaryFormat

/-- The number `m * 2 ^ e` of a format that `r` is rounded to: no number of the format is
nearer to `r`, and if another one is as near, its significand is even. -/
structure Rounds (f : BinaryFormat) (r : ℚ) (m : Nat) (e : Int) : Prop where
  significand_lt : m < 2 ^ f.precision
  exponent_ge : f.minExponent ≤ e
  canonical : e = f.minExponent ∨ 2 ^ (f.precision - 1) ≤ m
  nearest : ∀ (k : Nat) (d : Int), k < 2 ^ f.precision → f.minExponent ≤ d →
    |m * 2 ^ e - r| ≤ |k * 2 ^ d - r|
  even : ∀ (k : Nat) (d : Int), k < 2 ^ f.precision → f.minExponent ≤ d →
    |m * 2 ^ e - r| = |k * 2 ^ d - r| → (k * 2 ^ d : ℚ) ≠ m * 2 ^ e → m % 2 = 0

/-- The exponent at which a quotient is rounded. -/
def roundingExponent (f : BinaryFormat) (num den : Nat) : Int :=
  max f.minExponent (binaryOrder num den - (f.precision - 1 : Nat))

variable {f : BinaryFormat} {num den : Nat}

/-- What a quotient leaves at the exponent at which it is rounded fits the precision, and has a
full significand unless that exponent is the least one. -/
lemma quotient_lt (hnum : 0 < num) (hden : 0 < den) (hf : 0 < f.precision) :
    (num / den / 2 ^ f.roundingExponent num den : ℚ) < 2 ^ f.precision ∧
      (f.roundingExponent num den = f.minExponent ∨
        (2 : ℚ) ^ (f.precision - 1) ≤ num / den / 2 ^ f.roundingExponent num den) := by
  obtain ⟨hge, hlt⟩ := binaryOrder_spec hnum hden
  have hpos : (0 : ℚ) < 2 ^ f.roundingExponent num den := zpow_pos two_pos _
  have hexp : f.roundingExponent num den =
      max f.minExponent (binaryOrder num den - (f.precision - 1 : Nat)) := rfl
  constructor
  · rw [div_lt_iff₀ hpos, ← zpow_natCast, ← zpow_add₀ two_ne_zero]
    exact hlt.trans_le (zpow_le_zpow_right₀ one_le_two (by omega))
  · by_cases hmin : f.roundingExponent num den = f.minExponent
    · exact .inl hmin
    · right
      rw [le_div_iff₀ hpos, ← zpow_natCast, ← zpow_add₀ two_ne_zero]
      exact (zpow_le_zpow_right₀ one_le_two (by omega)).trans hge

/-- The rounded quotient, before and after a significand that is rounded up to a power of two
moves to the next exponent. -/
lemma nearest_cases (hnum : 0 < num) (hden : 0 < den) :
    ∃ q, RoundsTo (num / den / 2 ^ f.roundingExponent num den) q ∧
      f.nearest num den = if q = 2 ^ f.precision
        then (2 ^ (f.precision - 1), f.roundingExponent num den + 1)
        else (q, f.roundingExponent num den) := by
  refine ⟨nearestEven (scaleRatio num den (f.roundingExponent num den)).1
    (scaleRatio num den (f.roundingExponent num den)).2, ?_, ?_⟩
  · rw [← scaleRatio_eq]
    exact roundsTo_nearestEven _ (scaleRatio_pos num hden _)
  · rw [nearest, if_neg hnum.ne']
    rfl

/-- Where `t` is the number `r` in units of `2 ^ e`, the nearest integer to `t` is as near as any
number of the format. -/
lemma roundsTo_nearest {t : ℚ} {q : Nat} {e : Int} (hq : RoundsTo t q)
    (he : e = f.minExponent ∨ (2 : ℚ) ^ (f.precision - 1) ≤ t) {k : Nat} {d : Int}
    (hk : k < 2 ^ f.precision) (hd : f.minExponent ≤ d) :
    |q - t| ≤ |k * 2 ^ (d - e) - t| ∧
      (|q - t| = |k * 2 ^ (d - e) - t| → (k * 2 ^ (d - e) : ℚ) ≠ q → q % 2 = 0) := by
  by_cases hde : e ≤ d
  · -- the number is a whole number of units
    obtain ⟨i, hi⟩ := Int.eq_ofNat_of_zero_le (sub_nonneg.mpr hde)
    have hint : (k * 2 ^ (d - e) : ℚ) = ((k * 2 ^ i : Nat) : Int) := by
      rw [hi]
      push_cast
      rw [zpow_natCast]
    rw [hint]
    refine ⟨hq.nearest _, fun heq hne => hq.even _ heq fun h => hne ?_⟩
    exact_mod_cast h
  · -- the number lies below all with a full significand, which `t` has
    have hfull : (2 : ℚ) ^ (f.precision - 1) ≤ t := by
      rcases he with h | h
      · omega
      · exact h
    have hbelow : (k * 2 ^ (d - e) : ℚ) < 2 ^ (f.precision - 1) := by
      have hk' : (k : ℚ) < 2 ^ f.precision := by exact_mod_cast hk
      have hdouble : (2 : ℚ) ^ f.precision ≤ 2 ^ (f.precision - 1) * 2 := by
        rw [← pow_succ]
        exact pow_le_pow_right₀ one_le_two (by omega)
      calc (k * 2 ^ (d - e) : ℚ) ≤ k * 2 ^ (-1 : Int) := by gcongr <;> [norm_num; omega]
        _ < 2 ^ (f.precision - 1) := by
          rw [zpow_neg_one]
          linarith
    have hnear : |q - t| ≤ |((2 ^ (f.precision - 1) : Nat) : Int) - t| := by
      exact_mod_cast hq.nearest _
    push_cast at hnear
    rw [abs_of_nonpos (sub_nonpos.mpr hfull)] at hnear
    rw [abs_of_neg (show k * 2 ^ (d - e) - t < 0 by linarith)]
    exact ⟨by linarith, fun heq => by linarith⟩

/-- A significand that is rounded up to a power of two moves to the next exponent, with the
same value. -/
lemma carry_spec (hf : 2 ≤ f.precision) {t : ℚ} {q : Nat} {e : Int} (hq : RoundsTo t q)
    (hlt : t < 2 ^ f.precision) (he : e = f.minExponent ∨ (2 : ℚ) ^ (f.precision - 1) ≤ t) :
    ∃ m e', (if q = 2 ^ f.precision then (2 ^ (f.precision - 1), e + 1) else (q, e)) = (m, e') ∧
      (m * 2 ^ e' : ℚ) = q * 2 ^ e ∧ m < 2 ^ f.precision ∧ e ≤ e' ∧
      (e' = f.minExponent ∨ 2 ^ (f.precision - 1) ≤ m) ∧ (q % 2 = 0 → m % 2 = 0) := by
  obtain ⟨p, hp⟩ : ∃ p, f.precision = p + 2 := ⟨f.precision - 2, by omega⟩
  have hsucc : f.precision - 1 = p + 1 := by omega
  rw [hsucc] at he ⊢
  rw [hp] at hlt ⊢
  have hle : q ≤ 2 ^ (p + 2) := hq.le_of_le (by exact_mod_cast hlt.le)
  split
  · rename_i hcarry
    refine ⟨_, _, rfl, ?_, Nat.pow_lt_pow_right (by decide) (by omega), by omega, .inr le_rfl,
      fun _ => ?_⟩
    · rw [hcarry, zpow_add₀ two_ne_zero]
      push_cast
      ring
    · rw [Nat.pow_succ, Nat.mul_mod_left]
  · rename_i hcarry
    refine ⟨q, e, rfl, rfl, by omega, le_rfl, ?_, fun h => h⟩
    exact he.imp_right fun h => hq.ge_of_ge (by exact_mod_cast h)

/-- **Rounding to a format** gives the nearest number of the format. -/
theorem rounds_nearest (hf : 2 ≤ f.precision) (num : Nat) (hden : 0 < den) :
    f.Rounds (num / den) (f.nearest num den).1 (f.nearest num den).2 := by
  rcases Nat.eq_zero_or_pos num with rfl | hnum
  · rw [nearest, if_pos rfl]
    refine ⟨Nat.two_pow_pos _, le_rfl, .inl rfl, fun k d _ _ => ?_, fun _ _ _ _ _ _ => rfl⟩
    rw [Nat.cast_zero, zero_mul, zero_div, sub_zero, abs_zero]
    exact abs_nonneg _
  · obtain ⟨q, hq, hnearest⟩ := nearest_cases (f := f) hnum hden
    obtain ⟨hlt, hfull⟩ := quotient_lt (f := f) hnum hden (by omega)
    have hmin : f.minExponent ≤ f.roundingExponent num den := le_max_left _ _
    obtain ⟨m, e', hcarry, hvalue, hm, he, hcanonical, heven⟩ := carry_spec hf hq hlt hfull
    rw [hnearest, hcarry]
    generalize f.roundingExponent num den = e at hq hlt hfull hmin hvalue he
    -- both distances are measured in units of the exponent
    have hunit : (0 : ℚ) < 2 ^ e := zpow_pos two_pos e
    have hscale : ∀ z : ℚ, |z * 2 ^ e - num / den| = |z - num / den / 2 ^ e| * 2 ^ e := by
      intro z
      rw [← abs_of_pos hunit, ← abs_mul, abs_of_pos hunit, sub_mul, div_mul_cancel₀ _ hunit.ne']
    have hunits : ∀ (k : Nat) (d : Int), (k * 2 ^ d : ℚ) = k * 2 ^ (d - e) * 2 ^ e := by
      intro k d
      rw [mul_assoc, ← zpow_add₀ two_ne_zero, sub_add_cancel]
    refine ⟨hm, hmin.trans he, hcanonical, fun k d hk hd => ?_, fun k d hk hd => ?_⟩
    · rw [hvalue, hunits k d, hscale, hscale]
      exact mul_le_mul_of_nonneg_right (roundsTo_nearest hq hfull hk hd).1 hunit.le
    · rw [hvalue, hunits k d, hscale, hscale, mul_left_inj' hunit.ne', ne_eq,
        mul_left_inj' hunit.ne']
      exact fun h hne => heven ((roundsTo_nearest hq hfull hk hd).2 h hne)

/-- A quotient below a power of two has an exponent below that power, less the precision. -/
lemma nearest_exponent_le {b : Int} (hb : f.minExponent + f.precision ≤ b) (hden : 0 < den)
    (h : (num / den : ℚ) < 2 ^ b) : (f.nearest num den).2 ≤ b - f.precision + 1 := by
  rcases Nat.eq_zero_or_pos num with rfl | hnum
  · rw [nearest, if_pos rfl]
    omega
  · obtain ⟨q, -, hnearest⟩ := nearest_cases (f := f) hnum hden
    have horder : binaryOrder num den < b :=
      (zpow_lt_zpow_iff_right₀ one_lt_two).mp ((binaryOrder_spec hnum hden).1.trans_lt h)
    have hexp : f.roundingExponent num den ≤ b - f.precision := by
      rw [roundingExponent]
      omega
    rw [hnearest]
    split
    · show f.roundingExponent num den + 1 ≤ _
      omega
    · show f.roundingExponent num den ≤ _
      omega

end BinaryFormat

/-! ### The nearest double -/

lemma abs_signed_sub_signed (negative : Bool) (r s : ℚ) :
    |signed negative r - signed negative s| = |r - s| := by
  cases negative with
  | false => rfl
  | true => rw [signed, signed, if_pos rfl, if_pos rfl, ← neg_sub', abs_neg]

lemma abs_signed_sub_not {r s : ℚ} (hr : 0 ≤ r) (hs : 0 ≤ s) (negative : Bool) :
    |signed (!negative) r - signed negative s| = r + s := by
  have hsum : 0 ≤ r + s := add_nonneg hr hs
  cases negative with
  | false =>
      show |-r - s| = r + s
      rw [← neg_add', abs_neg, abs_of_nonneg hsum]
  | true =>
      show |r - -s| = r + s
      rw [sub_neg_eq_add, abs_of_nonneg hsum]

namespace Finite

/-- The nearest double to a number `q`: none is nearer to `q`, and if one with another value is as
near, the significand is even. -/
structure IsNearest (x : Finite) (q : ℚ) : Prop where
  nearest : ∀ y : Finite, |x.value - q| ≤ |y.value - q|
  even : ∀ y : Finite, |x.value - q| = |y.value - q| → y.value ≠ x.value → x.significand % 2 = 0

/-- What is a double already is not changed by rounding. -/
lemma IsNearest.value_eq {x y : Finite} (h : x.IsNearest y.value) : x.value = y.value := by
  have hle := h.nearest y
  rw [sub_self, abs_zero] at hle
  exact sub_eq_zero.mp (abs_eq_zero.mp (le_antisymm hle (abs_nonneg _)))

/-- The nearest number of the format, with a sign, is the nearest double. -/
lemma isNearest_of_rounds {x : Finite} {r : ℚ} (hr : 0 ≤ r)
    (h : BinaryFormat.binary64.Rounds r x.significand x.exponent) :
    x.IsNearest (signed x.negative r) := by
  have hx : |x.value - signed x.negative r| = |x.significand * 2 ^ x.exponent - r| := by
    rw [value_eq_signed, abs_signed_sub_signed]
  have hnear := fun y : Finite => h.nearest y.significand y.exponent y.significand_lt y.exponent_ge
  have heven := fun y : Finite => h.even y.significand y.exponent y.significand_lt y.exponent_ge
  have hzero := h.nearest 0 x.exponent (by decide) x.exponent_ge
  rw [Nat.cast_zero, zero_mul, zero_sub, abs_neg, abs_of_nonneg hr] at hzero
  have hcases : ∀ y : Finite, y.negative = x.negative ∨ y.negative = !x.negative := by
    intro y
    cases y.negative <;> cases x.negative <;> simp
  have hpos : ∀ y : Finite, (0 : ℚ) ≤ y.significand * 2 ^ y.exponent := fun y => by positivity
  constructor
  · intro y
    rw [hx, value_eq_signed y]
    rcases hcases y with hy | hy
    · rw [hy, abs_signed_sub_signed]
      exact hnear y
    · rw [hy, abs_signed_sub_not (hpos y) hr]
      linarith [hpos y]
  · intro y heq hne
    rw [hx, value_eq_signed y] at heq
    rw [value_eq_signed, value_eq_signed x] at hne
    rcases hcases y with hy | hy
    · rw [hy, abs_signed_sub_signed] at heq
      rw [hy] at hne
      exact heven y heq fun h => hne (by rw [h])
    · -- a double of the other sign is as near only if it is zero
      rw [hy, abs_signed_sub_not (hpos y) hr] at heq
      have hy0 : (y.significand * 2 ^ y.exponent : ℚ) = 0 := by linarith [hpos y]
      refine heven y (by rw [heq, hy0, zero_add, zero_sub, abs_neg, abs_of_nonneg hr])
        fun h => hne ?_
      rw [← h, hy0]
      simp [signed]

/-- The double with parts in the one allowed form. -/
lemma ofParts?_of_form (negative : Bool) {m : Nat} {e : Int} (hm : m < 9007199254740992)
    (hge : -1074 ≤ e) (hle : e ≤ 971) (hform : e = -1074 ∨ 4503599627370496 ≤ m) :
    ofParts? negative m e = some ⟨negative, m, e, hm, hge, hle, hform⟩ := by
  rw [ofParts?, dif_pos ⟨hm, hge, hle, hform⟩]

/-- **A quotient below `2 ^ 1023` is rounded to a double**, the nearest one. -/
theorem exists_ofRatio? (negative : Bool) {num den : Nat} (hden : 0 < den)
    (h : (num / den : ℚ) < 2 ^ 1023) : ∃ x, ofRatio? negative num den = some x ∧
      x.negative = negative ∧ x.IsNearest (signed negative (num / den)) := by
  have hrounds := BinaryFormat.binary64.rounds_nearest (by decide) num hden
  have hexp := BinaryFormat.binary64.nearest_exponent_le (b := (1023 : Nat)) (by decide) hden
    (by rwa [zpow_natCast])
  have hparts := ofParts?_of_form negative (by exact_mod_cast hrounds.significand_lt)
    hrounds.exponent_ge hexp (by exact_mod_cast hrounds.canonical)
  have hnonneg : (0 : ℚ) ≤ num / den := div_nonneg num.cast_nonneg den.cast_nonneg
  exact ⟨_, hparts, rfl, isNearest_of_rounds hnonneg hrounds⟩

/-- Every significand of the precision with an exponent of the range gives a double, in
whatever form it is. -/
lemma exists_value (negative : Bool) {m : Nat} {e : Int} (hm : m < 9007199254740992)
    (hge : -1074 ≤ e) (hle : e ≤ 971) : ∃ x : Finite, x.value = signed negative (m * 2 ^ e) := by
  obtain ⟨k, rfl⟩ : ∃ k : Nat, e = k - 1074 := ⟨(e + 1074).toNat, by omega⟩
  induction k generalizing m with
  | zero => exact ⟨⟨negative, m, -1074, hm, by decide, by decide, .inl rfl⟩, value_eq_signed _⟩
  | succ k ih =>
      by_cases hfull : 4503599627370496 ≤ m
      · exact ⟨⟨negative, m, _, hm, hge, hle, .inr hfull⟩, value_eq_signed _⟩
      · -- a digit is moved from the exponent to the significand
        obtain ⟨x, hx⟩ := ih (m := 2 * m) (by omega) (by omega) (by omega)
        refine ⟨x, hx.trans ?_⟩
        have hexp : ((k + 1 : Nat) - 1074 : Int) = (k - 1074 : Int) + 1 := by omega
        rw [hexp, zpow_add_one₀ two_ne_zero]
        push_cast
        ring_nf

end Finite

namespace Double

/-- A quotient below `2 ^ 1023` is rounded to the nearest double. -/
lemma exists_ofRatio (negative : Bool) {num den : Nat} (hden : 0 < den)
    (h : (num / den : ℚ) < 2 ^ 1023) : ∃ x, ofRatio negative num den = finite x ∧
      x.negative = negative ∧ x.IsNearest (signed negative (num / den)) := by
  obtain ⟨x, hx, hsign, hnear⟩ := Finite.exists_ofRatio? negative hden h
  exact ⟨x, by rw [ofRatio, hx], hsign, hnear⟩

/-- A quotient that is a double below `2 ^ 1023` stays what it is. -/
lemma exists_ofRatio_of_eq (negative : Bool) {num den m : Nat} {e : Int} (hden : 0 < den)
    (hm : m < 9007199254740992) (hge : -1074 ≤ e) (hle : e ≤ 970)
    (h : (num / den : ℚ) = m * 2 ^ e) : ∃ x, ofRatio negative num den = finite x ∧
      x.negative = negative ∧ x.value = signed negative (m * 2 ^ e) := by
  have hlt : (num / den : ℚ) < 2 ^ 1023 := by
    have hm' : (m : ℚ) < 2 ^ 53 := by exact_mod_cast hm
    have hpow : (2 : ℚ) ^ e ≤ 2 ^ (970 : Nat) := by
      rw [← zpow_natCast]
      exact zpow_le_zpow_right₀ one_le_two hle
    calc (num / den : ℚ) = m * 2 ^ e := h
      _ < 2 ^ 53 * 2 ^ e := mul_lt_mul_of_pos_right hm' (zpow_pos two_pos e)
      _ ≤ 2 ^ 53 * 2 ^ 970 := mul_le_mul_of_nonneg_left hpow (by norm_num)
      _ = 2 ^ 1023 := by rw [← pow_add]
  obtain ⟨x, hx, hsign, hnear⟩ := exists_ofRatio negative hden hlt
  obtain ⟨y, hy⟩ := Finite.exists_value negative hm hge (by omega)
  rw [h, ← hy] at hnear
  exact ⟨x, hx, hsign, hnear.value_eq.trans hy⟩

/-- An integer of at most 128 bits is rounded to the nearest double, and never to
infinity. -/
lemma exists_ofInt {n : Int} (h : n.natAbs ≤ 2 ^ 128) :
    ∃ x, ofInt n = finite x ∧ x.IsNearest n := by
  have hlt : (n.natAbs / (1 : Nat) : ℚ) < 2 ^ 1023 := by
    calc (n.natAbs / (1 : Nat) : ℚ) = n.natAbs := by rw [Nat.cast_one, div_one]
      _ ≤ 2 ^ 128 := by exact_mod_cast h
      _ < 2 ^ 1023 := pow_lt_pow_right₀ one_lt_two (by decide)
  obtain ⟨x, hx, -, hnear⟩ := exists_ofRatio (decide (n < 0)) Nat.one_pos hlt
  rw [Nat.cast_one, div_one, signed_natAbs] at hnear
  exact ⟨x, hx, hnear⟩

end Double

end EventQuery
