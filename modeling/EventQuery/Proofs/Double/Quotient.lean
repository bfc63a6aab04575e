import EventQuery.Proofs.Double.Rounding
import Mathlib.Algebra.Order.Archimedean.Basic
import Mathlib.Algebra.Order.Round

/-!
Quotients of doubles, and how far rounding moves a number.

* `Double.exists_divide`: a quotient of doubles below `2 ^ 1023` is the nearest double to the
  exact quotient.
* `Finite.IsNearest.abs_sub_le`: a number whose significand is full is moved by a `2 ^ 53`th of
  itself at most.
* `abs_sub_div_le`: the quotient of two rounded numbers, rounded again, is off by a `2 ^ 51`th
  of the exact one at most.
* `Finite.IsQuotient`, `Double.exists_isQuotient`: the quotient of an integer and a count.
-/

namespace EventQuery

/-! ### Quotients -/

lemma signed_div (a b : Bool) (r s : ℚ) : signed (a != b) (r / s) = signed a r / signed b s := by
  cases a <;> cases b <;> simp [signed, neg_div, div_neg]

lemma signed_abs (r : ℚ) : signed (decide (r < 0)) |r| = r := by
  simp only [signed, decide_eq_true_eq]
  split
  · rename_i h
    rw [abs_of_neg h, neg_neg]
  · rename_i h
    exact abs_of_nonneg (not_lt.mp h)

lemma abs_signed {negative : Bool} {r : ℚ} (hr : 0 ≤ r) : |signed negative r| = r := by
  cases negative with
  | false => exact abs_of_nonneg hr
  | true => exact (abs_neg r).trans (abs_of_nonneg hr)

namespace Finite

/-- The magnitude of a double is the quotient that it is taken apart into. -/
lemma ratio_spec (x : Finite) :
    0 < x.ratio.2 ∧ (x.ratio.1 / x.ratio.2 : ℚ) = x.significand * 2 ^ x.exponent := by
  rw [ratio]
  split
  · rename_i he
    obtain ⟨k, hk⟩ := Int.eq_ofNat_of_zero_le he
    rw [hk, Int.toNat_natCast, Nat.pow_eq, zpow_natCast]
    exact ⟨Nat.one_pos, by push_cast; rw [div_one]⟩
  · rename_i he
    obtain ⟨k, hk⟩ : ∃ k : Nat, x.exponent = -(k : Int) := ⟨(-x.exponent).toNat, by omega⟩
    rw [hk, neg_neg, Int.toNat_natCast, Nat.pow_eq, zpow_neg, zpow_natCast]
    exact ⟨Nat.two_pow_pos k, by push_cast; rw [div_eq_mul_inv]⟩

lemma abs_value (x : Finite) : |x.value| = x.significand * 2 ^ x.exponent := by
  rw [value_eq_signed, abs_signed x.magnitude_nonneg]

end Finite

/-- **A quotient of doubles** below `2 ^ 1023` is rounded to the nearest double. -/
theorem Double.exists_divide {x y : Finite} (hy : y.value ≠ 0)
    (h : |x.value / y.value| < 2 ^ 1023) :
    ∃ q, Double.divide x y = .finite q ∧ q.IsNearest (x.value / y.value) := by
  obtain ⟨hxden, hx⟩ := x.ratio_spec
  obtain ⟨hyden, hy'⟩ := y.ratio_spec
  have hover : x.over? y = if y.ratio.1 = 0 then none
      else Finite.ofRatio? (x.negative != y.negative) (x.ratio.1 * y.ratio.2)
        (x.ratio.2 * y.ratio.1) := rfl
  have hynum : y.ratio.1 ≠ 0 := by
    intro h0
    rw [h0, Nat.cast_zero, zero_div, ← y.abs_value] at hy'
    exact hy (abs_eq_zero.mp hy'.symm)
  have hmagnitude : ((x.ratio.1 * y.ratio.2 : Nat) / (x.ratio.2 * y.ratio.1 : Nat) : ℚ)
      = x.significand * 2 ^ x.exponent / (y.significand * 2 ^ y.exponent) := by
    rw [← hx, ← hy', div_div_div_eq]
    push_cast
    rfl
  have hlt : ((x.ratio.1 * y.ratio.2 : Nat) / (x.ratio.2 * y.ratio.1 : Nat) : ℚ) < 2 ^ 1023 := by
    rwa [hmagnitude, ← x.abs_value, ← y.abs_value, ← abs_div]
  obtain ⟨q, hq, -, hnear⟩ := Finite.exists_ofRatio? (x.negative != y.negative)
    (Nat.mul_pos hxden (Nat.pos_of_ne_zero hynum)) hlt
  rw [hmagnitude, signed_div, ← x.value_eq_signed, ← y.value_eq_signed] at hnear
  refine ⟨q, ?_, hnear⟩
  rw [divide, hover, if_neg hynum, hq]

/-! ### How far rounding moves a number -/

namespace Finite

/-- A number in the range of full significands has a double within a `2 ^ 53`th of it. -/
lemma exists_near (negative : Bool) {r : ℚ} (hlow : 2 ^ (-1022 : Int) ≤ r)
    (hhigh : r < 2 ^ (1023 : Int)) :
    ∃ x : Finite, |x.value - signed negative r| ≤ r / 2 ^ 53 := by
  have hr : 0 < r := (zpow_pos two_pos _).trans_le hlow
  obtain ⟨k, hk, hk'⟩ := exists_mem_Ico_zpow hr (one_lt_two (α := ℚ))
  have hkge : -1022 < k + 1 := (zpow_lt_zpow_iff_right₀ one_lt_two).mp (hlow.trans_lt hk')
  have hklt : k < 1023 := (zpow_lt_zpow_iff_right₀ one_lt_two).mp (hk.trans_lt hhigh)
  -- the unit of the last place, in which the number lies between `2 ^ 52` and `2 ^ 53`
  obtain ⟨e, rfl⟩ : ∃ e, k = e + 52 := ⟨k - 52, by omega⟩
  have hunit : (0 : ℚ) < 2 ^ e := zpow_pos two_pos e
  have hsplit : ∀ i : Nat, (2 : ℚ) ^ (e + i) = 2 ^ i * 2 ^ e := by
    intro i
    rw [zpow_add₀ two_ne_zero, zpow_natCast, mul_comm]
  have hge : (2 : ℚ) ^ 52 ≤ r / 2 ^ e := by
    rw [le_div_iff₀ hunit, ← hsplit]
    exact hk
  have hlt : r / 2 ^ e < 2 ^ 53 := by
    rw [div_lt_iff₀ hunit, ← hsplit]
    exact hk'.trans_eq (by rw [add_assoc]; rfl)
  have hround : |r / 2 ^ e - round (r / 2 ^ e)| ≤ 1 / 2 := abs_sub_round _
  obtain ⟨hfrom, hto⟩ := abs_le.mp hround
  have hpos : 0 ≤ round (r / 2 ^ e) := by
    have : (0 : ℚ) ≤ round (r / 2 ^ e) := by linarith [show (1 : ℚ) ≤ 2 ^ 52 by norm_num]
    exact_mod_cast this
  obtain ⟨m, hm⟩ := Int.eq_ofNat_of_zero_le hpos
  rw [hm, Int.cast_natCast] at hround hfrom
  have hmle : m ≤ 9007199254740992 := by
    have : (m : ℚ) < 9007199254740993 := by
      linarith [show (2 : ℚ) ^ 53 = 9007199254740992 by norm_num]
    exact_mod_cast Nat.lt_succ_iff.mp (by exact_mod_cast this)
  obtain ⟨x, hx⟩ : ∃ x : Finite, x.value = signed negative (m * 2 ^ e) := by
    rcases Nat.lt_or_eq_of_le hmle with hmlt | rfl
    · exact exists_value negative hmlt (by omega) (by omega)
    · obtain ⟨x, hx⟩ := exists_value negative (m := 4503599627370496) (e := e + 1) (by decide)
        (by omega) (by omega)
      refine ⟨x, hx.trans ?_⟩
      rw [zpow_add_one₀ two_ne_zero]
      push_cast
      ring_nf
  refine ⟨x, ?_⟩
  rw [hx, abs_signed_sub_signed]
  calc |m * 2 ^ e - r| = |r / 2 ^ e - m| * 2 ^ e := by
        rw [← abs_of_pos hunit, ← abs_mul, abs_of_pos hunit, sub_mul, div_mul_cancel₀ _ hunit.ne',
          abs_sub_comm]
    _ ≤ 1 / 2 * 2 ^ e := by gcongr
    _ ≤ r / 2 ^ 53 := by
        rw [le_div_iff₀ (by positivity)]
        linarith [(le_div_iff₀ hunit).mp hge]

/-- **Rounding moves a number little**: by a `2 ^ 53`th of it, where significands are full. -/
theorem IsNearest.abs_sub_le {x : Finite} {r : ℚ} (h : x.IsNearest r)
    (hrange : r = 0 ∨ 2 ^ (-1022 : Int) ≤ |r| ∧ |r| < 2 ^ (1023 : Int)) :
    |x.value - r| ≤ |r| / 2 ^ 53 := by
  rcases hrange with rfl | ⟨hlow, hhigh⟩
  · have hzero : (zero false).value = 0 := by simp [value, zero]
    rw [← hzero] at h
    rw [h.value_eq, hzero, sub_zero, abs_zero, zero_div]
  · obtain ⟨y, hy⟩ := exists_near (decide (r < 0)) hlow hhigh
    rw [signed_abs] at hy
    exact (h.nearest y).trans hy

end Finite

/-- The quotient of two numbers that were moved little, moved again, is still near the exact
one. -/
lemma abs_sub_div_le {a b x y q : ℚ} (hb : b ≠ 0) (hx : |x - a| ≤ |a| / 2 ^ 53)
    (hy : |y - b| ≤ |b| / 2 ^ 53) (hq : |q - x / y| ≤ |x / y| / 2 ^ 53) :
    |q - a / b| ≤ |a / b| / 2 ^ 51 := by
  have hb' : 0 < |b| := abs_pos.mpr hb
  have hxle : |x| ≤ |a| + |a| / 2 ^ 53 := by linarith [abs_sub_abs_le_abs_sub x a]
  have hyge : |b| - |b| / 2 ^ 53 ≤ |y| := by
    linarith [abs_sub_abs_le_abs_sub b y, abs_sub_comm b y]
  have hpos : 0 < |b| - |b| / 2 ^ 53 := by linarith
  have hy0 : y ≠ 0 := abs_pos.mp (hpos.trans_le hyge)
  -- before it is moved again, the quotient is off by what both numbers were moved
  have hexact : |x / y - a / b| ≤ 2 * |a| / 2 ^ 53 / |y| := by
    have hsub : x / y - a / b = ((x - a) * b - a * (y - b)) / (y * b) := by
      field_simp
      ring
    rw [hsub, abs_div, abs_mul, div_le_div_iff₀ (by positivity) (abs_pos.mpr hy0)]
    have hsum : |(x - a) * b - a * (y - b)| ≤ |x - a| * |b| + |a| * |y - b| := by
      rw [← abs_mul, ← abs_mul]
      exact abs_sub _ _
    calc |(x - a) * b - a * (y - b)| * |y| ≤ (|x - a| * |b| + |a| * |y - b|) * |y| := by gcongr
      _ ≤ (|a| / 2 ^ 53 * |b| + |a| * (|b| / 2 ^ 53)) * |y| := by gcongr
      _ = 2 * |a| / 2 ^ 53 * (|y| * |b|) := by ring
  calc |q - a / b| ≤ |q - x / y| + |x / y - a / b| := abs_sub_le _ _ _
    _ ≤ |x| / |y| / 2 ^ 53 + 2 * |a| / 2 ^ 53 / |y| := by
        rw [← abs_div]
        gcongr
    _ = (|x| + 2 * |a|) / 2 ^ 53 / |y| := by ring
    _ ≤ (|a| + |a| / 2 ^ 53 + 2 * |a|) / 2 ^ 53 / (|b| - |b| / 2 ^ 53) := by gcongr
    _ ≤ |a| / |b| / 2 ^ 51 := by
        rw [div_div, div_div, div_le_div_iff₀ (by positivity) (by positivity)]
        nlinarith [mul_nonneg (abs_nonneg a) hb'.le]
    _ = |a / b| / 2 ^ 51 := by rw [abs_div]

/-! ### Quotients of integers -/

/-- The double that comes of dividing an integer by a count: both are rounded, and so is the
quotient of what they are rounded to. -/
structure Finite.IsQuotient (q : Finite) (total : Int) (count : Nat) : Prop where
  rounded : ∃ x y : Finite, x.IsNearest total ∧ y.IsNearest count ∧ q.IsNearest (x.value / y.value)
  near : |q.value - total / count| ≤ |(total / count : ℚ)| / 2 ^ 51

section

variable {n : Int} {x : Finite}

/-- An integer of at most 128 bits is moved by a `2 ^ 53`th of it at most. -/
lemma Finite.IsNearest.abs_sub_intCast_le (h : x.IsNearest n) (hn : n.natAbs ≤ 2 ^ 128) :
    |x.value - n| ≤ |(n : ℚ)| / 2 ^ 53 := by
  refine h.abs_sub_le ?_
  rcases eq_or_ne n 0 with rfl | h0
  · exact .inl Int.cast_zero
  · have habs : |(n : ℚ)| = n.natAbs := by rw [Nat.cast_natAbs, Int.cast_abs]
    have hone : (1 : ℚ) ≤ n.natAbs := by exact_mod_cast Int.natAbs_pos.mpr h0
    have hle : (n.natAbs : ℚ) ≤ 2 ^ 128 := by exact_mod_cast hn
    refine .inr ⟨?_, ?_⟩
    · rw [habs]
      exact (zpow_le_one_of_nonpos₀ one_le_two (by decide)).trans hone
    · rw [habs]
      refine hle.trans_lt ?_
      rw [← zpow_natCast]
      exact zpow_lt_zpow_right₀ one_lt_two (by decide)

/-- What a positive integer of at most 128 bits is rounded to. -/
lemma Finite.IsNearest.abs_value_bounds (h : x.IsNearest n) (hn : n.natAbs ≤ 2 ^ 128)
    (h0 : n ≠ 0) : 1 / 2 ≤ |x.value| ∧ |x.value| ≤ 2 ^ 129 := by
  have hmoved := h.abs_sub_intCast_le hn
  have habs : |(n : ℚ)| = n.natAbs := by rw [Nat.cast_natAbs, Int.cast_abs]
  have hone : (1 : ℚ) ≤ n.natAbs := by exact_mod_cast Int.natAbs_pos.mpr h0
  have hle : (n.natAbs : ℚ) ≤ 2 ^ 128 := by exact_mod_cast hn
  rw [habs] at hmoved
  have hup := abs_sub_abs_le_abs_sub x.value n
  have hdown := abs_sub_abs_le_abs_sub (n : ℚ) x.value
  rw [abs_sub_comm] at hdown
  rw [habs] at hup hdown
  constructor <;> linarith

end

namespace Finite.IsQuotient

variable {q : Finite} {total : Int} {count : Nat}

lemma value_pos (h : q.IsQuotient total count) (hcount : 0 < count) (htotal : 0 < total) :
    0 < q.value := by
  have hexact : (0 : ℚ) < total / count := by positivity
  have hnear := abs_le.mp h.near
  rw [abs_of_pos hexact] at hnear
  linarith

lemma value_neg (h : q.IsQuotient total count) (hcount : 0 < count) (htotal : total < 0) :
    q.value < 0 := by
  have hexact : (total / count : ℚ) < 0 :=
    div_neg_of_neg_of_pos (by exact_mod_cast htotal) (by exact_mod_cast hcount)
  have hnear := abs_le.mp h.near
  rw [abs_of_neg hexact] at hnear
  linarith

lemma value_eq_zero (h : q.IsQuotient 0 count) : q.value = 0 := by
  have hnear := h.near
  rw [Int.cast_zero, zero_div, abs_zero, zero_div, sub_zero] at hnear
  exact abs_nonpos_iff.mp hnear

/-- The double quotient has the sign of the exact one. -/
lemma sign_value (h : q.IsQuotient total count) (hcount : 0 < count) :
    (0 < q.value ↔ 0 < total) ∧ (q.value < 0 ↔ total < 0) := by
  rcases lt_trichotomy total 0 with htotal | rfl | htotal
  · have hneg := h.value_neg hcount htotal
    exact ⟨iff_of_false hneg.not_gt htotal.not_gt, iff_of_true hneg htotal⟩
  · rw [h.value_eq_zero]
    exact ⟨iff_of_false (lt_irrefl 0) (lt_irrefl 0), iff_of_false (lt_irrefl 0) (lt_irrefl 0)⟩
  · have hpos := h.value_pos hcount htotal
    exact ⟨iff_of_true hpos htotal, iff_of_false hpos.not_gt htotal.not_gt⟩

end Finite.IsQuotient

/-- **The quotient of an integer and a count** of at most 128 bits is a finite double near the
exact quotient. -/
theorem Double.exists_isQuotient {total : Int} {count : Nat} (htotal : total.natAbs ≤ 2 ^ 128)
    (hpos : 0 < count) (hcount : count ≤ 2 ^ 128) :
    ∃ x y q, ofInt total = finite x ∧ ofInt count = finite y ∧ divide x y = finite q ∧
      q.IsQuotient total count := by
  have hcount0 : (count : Int) ≠ 0 := by omega
  obtain ⟨x, hx, hxnear⟩ := exists_ofInt htotal
  obtain ⟨y, hy, hynear⟩ := exists_ofInt (n := count) (by simpa using hcount)
  have hxmoved := hxnear.abs_sub_intCast_le htotal
  have hymoved := hynear.abs_sub_intCast_le (by simpa using hcount)
  obtain ⟨hyge, hyle⟩ := hynear.abs_value_bounds (by simpa using hcount) hcount0
  have hy0 : y.value ≠ 0 := abs_pos.mp (by linarith)
  rw [Int.cast_natCast] at hynear hymoved
  have hrange : x.value / y.value = 0 ∨ 2 ^ (-1022 : Int) ≤ |x.value / y.value| ∧
      |x.value / y.value| < 2 ^ (1023 : Int) := by
    rcases eq_or_ne total 0 with rfl | h0
    · left
      rw [Int.cast_zero, abs_zero, zero_div, sub_zero] at hxmoved
      rw [abs_nonpos_iff.mp hxmoved, zero_div]
    · obtain ⟨hxge, hxle⟩ := hxnear.abs_value_bounds htotal h0
      refine .inr ⟨?_, ?_⟩
      · rw [abs_div, le_div_iff₀ (by linarith)]
        calc (2 : ℚ) ^ (-1022 : Int) * |y.value| ≤ 2 ^ (-130 : Int) * 2 ^ 129 := by
              gcongr <;> norm_num
          _ = 1 / 2 := by norm_num
          _ ≤ |x.value| := hxge
      · rw [abs_div, div_lt_iff₀ (by linarith)]
        calc |x.value| ≤ 2 ^ 129 := hxle
          _ < 2 ^ (131 : Int) * (1 / 2) := by norm_num
          _ ≤ 2 ^ (1023 : Int) * |y.value| := by gcongr <;> norm_num
  have hlt : |x.value / y.value| < 2 ^ 1023 := by
    rcases hrange with h0 | ⟨-, hlt⟩
    · rw [h0, abs_zero]
      exact pow_pos two_pos _
    · exact_mod_cast hlt
  obtain ⟨q, hq, hqnear⟩ := exists_divide hy0 hlt
  refine ⟨x, y, q, hx, hy, hq, ⟨x, y, hxnear, hynear, hqnear⟩, ?_⟩
  exact abs_sub_div_le (by exact_mod_cast hcount0) hxmoved hymoved (hqnear.abs_sub_le hrange)

end EventQuery
