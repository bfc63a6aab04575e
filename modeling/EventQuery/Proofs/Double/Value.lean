import EventQuery.Json.Basic
import EventQuery.Proofs.Double.Integral
import Mathlib.Algebra.Order.Field.Power
import Mathlib.Algebra.Order.Field.Rat
import Mathlib.Tactic.FieldSimp
import Mathlib.Tactic.Linarith
import Mathlib.Tactic.NormNum
import Mathlib.Tactic.Positivity
import Mathlib.Tactic.Ring

/-!
The numbers that doubles and JSON numbers denote.

* `Finite.value`, `Number.value`: the exact value, as a rational number.
* `Finite.value_eq_iff`: doubles have one value exactly if they are equal as numbers.
* `Finite.toInt64?_eq_some_iff`: a double has an integer of 64 bits exactly if its value is
  that integer, below `2 ^ 63` in size.
* `Finite.toInt64_eq_value_iff`: where the conversion to 64 bits keeps the value.
-/

namespace EventQuery

/-- The number that a finite double denotes. -/
def Finite.value (x : Finite) : ℚ :=
  (if x.negative then -1 else 1) * x.significand * 2 ^ x.exponent

/-- The number that a JSON number denotes. -/
def Number.value : Number → ℚ
  | .integer n => n
  | .double x => x.value

/-! ### Magnitudes with a sign -/

/-- A magnitude with a sign. -/
def signed (negative : Bool) (r : ℚ) : ℚ := if negative then -r else r

/-- A signed number tells the magnitude, and the sign unless it is zero. -/
lemma signed_inj {a b : Bool} {r s : ℚ} (hr : 0 ≤ r) (hs : 0 ≤ s)
    (h : signed a r = signed b s) : r = s ∧ (a = b ∨ r = 0) := by
  cases a <;> cases b <;> simp only [signed, Bool.false_eq_true, if_false, if_true] at h
  · exact ⟨h, .inl rfl⟩
  · exact ⟨by linarith, .inr (by linarith)⟩
  · exact ⟨by linarith, .inr (by linarith)⟩
  · exact ⟨by linarith, .inl rfl⟩

/-- An integer is its magnitude with its sign. -/
lemma signed_natAbs (n : Int) : signed (decide (n < 0)) n.natAbs = n := by
  simp only [signed, decide_eq_true_eq, Nat.cast_natAbs]
  split
  · rename_i h
    rw [abs_of_neg h, Int.cast_neg, neg_neg]
  · rename_i h
    rw [abs_of_nonneg (not_lt.mp h)]

/-! ### Values of doubles -/

namespace Finite

lemma value_eq_signed (x : Finite) :
    x.value = signed x.negative (x.significand * 2 ^ x.exponent) := by
  rw [value, signed]
  split <;> ring

lemma magnitude_nonneg (x : Finite) : (0 : ℚ) ≤ x.significand * 2 ^ x.exponent := by positivity

/-- The magnitude in units of the least positive double. -/
lemma units_eq (x : Finite) :
    (x.units : ℚ) = x.significand * 2 ^ x.exponent * 2 ^ (depth : Int) := by
  have hge := x.exponent_ge
  have hdepth := depth_eq
  have hshift : ((x.exponent + depth).toNat : Int) = x.exponent + depth :=
    Int.toNat_of_nonneg (by omega)
  rw [units, Nat.pow_eq, Nat.cast_mul, Nat.cast_pow, Nat.cast_ofNat, ← zpow_natCast, hshift,
    zpow_add₀ two_ne_zero, mul_assoc]

/-- Doubles denote one number exactly if they are equal as numbers. -/
theorem value_eq_iff {x y : Finite} : x.value = y.value ↔ x.equal y = true := by
  have hzero : ∀ z : Finite, z.isZero = true ↔ (z.significand * 2 ^ z.exponent : ℚ) = 0 := by
    intro z
    rw [mul_eq_zero_iff_right (zpow_pos two_pos _).ne', Nat.cast_eq_zero, isZero, beq_iff_eq]
  rw [equal, Bool.or_eq_true, Bool.and_eq_true, beq_iff_eq, hzero, hzero]
  constructor
  · intro h
    rw [value_eq_signed, value_eq_signed] at h
    obtain ⟨hmagnitude, hsign | h0⟩ := signed_inj x.magnitude_nonneg y.magnitude_nonneg h
    · have hunits : (x.units : ℚ) = y.units := by rw [units_eq, units_eq, hmagnitude]
      exact .inr (eq_of_units hsign (by exact_mod_cast hunits))
    · exact .inl ⟨h0, hmagnitude ▸ h0⟩
  · rintro (⟨hx, hy⟩ | rfl)
    · rw [value_eq_signed, value_eq_signed, hx, hy]
      simp [signed]
    · rfl

/-! ### Integers among them -/

/-- The magnitude is the quotient. -/
lemma magnitude_mul_ratio (x : Finite) :
    (x.significand * 2 ^ x.exponent * x.ratio.2 : ℚ) = x.ratio.1 := by
  rw [ratio]
  split
  · rename_i he
    obtain ⟨e, he'⟩ := Int.eq_ofNat_of_zero_le he
    rw [he', Int.toNat_natCast, Nat.pow_eq, zpow_natCast]
    push_cast
    ring
  · rename_i he
    obtain ⟨e, he'⟩ : ∃ e : Nat, x.exponent = -(e : Int) := ⟨(-x.exponent).toNat, by omega⟩
    rw [he', neg_neg, Int.toNat_natCast, Nat.pow_eq, zpow_neg, zpow_natCast]
    push_cast
    field_simp

/-- The magnitude is an integer exactly if nothing is behind the point. -/
lemma magnitude_eq_natCast_iff {x : Finite} {m : Nat} :
    (x.significand * 2 ^ x.exponent : ℚ) = m ↔ x.isIntegral = true ∧ x.truncate.natAbs = m := by
  have hpos : (0 : ℚ) < x.ratio.2 := by exact_mod_cast x.ratio_pos
  rw [← mul_left_inj' hpos.ne', magnitude_mul_ratio]
  constructor
  · intro h
    have hnum : x.ratio.1 = m * x.ratio.2 := by exact_mod_cast h
    rw [isIntegral, natAbs_truncate, hnum, Nat.mul_mod_left, Nat.mul_div_cancel _ x.ratio_pos]
    exact ⟨rfl, rfl⟩
  · rintro ⟨hint, rfl⟩
    exact_mod_cast (natAbs_truncate_mul hint).symm

/-- A double is an integer exactly if nothing is behind the point. -/
lemma value_eq_intCast_iff {x : Finite} {n : Int} :
    x.value = n ↔ x.isIntegral = true ∧ x.truncate = n := by
  rw [value_eq_signed]
  constructor
  · intro h
    rw [← signed_natAbs n] at h
    obtain ⟨hmagnitude, hsign⟩ := signed_inj x.magnitude_nonneg (Nat.cast_nonneg _) h
    obtain ⟨hint, habs⟩ := magnitude_eq_natCast_iff.mp hmagnitude
    refine ⟨hint, ?_⟩
    rw [truncate_eq_natAbs, habs]
    rcases hsign with hsign | h0
    · simp only [hsign, decide_eq_true_eq]
      split <;> omega
    · rw [h0, eq_comm, Nat.cast_eq_zero] at hmagnitude
      rw [hmagnitude]
      split <;> omega
  · rintro ⟨hint, rfl⟩
    rw [magnitude_eq_natCast_iff.mpr ⟨hint, rfl⟩]
    conv_rhs => rw [truncate_eq_natAbs]
    rw [signed]
    split
    · rw [Int.cast_neg, Int.cast_natCast]
    · rw [Int.cast_natCast]

/-- A double has an integer of 64 bits exactly if it denotes that integer and the integer is
below `2 ^ 63` in size. -/
theorem toInt64?_eq_some_iff {x : Finite} {n : Int64} :
    x.toInt64? = some n ↔ x.value = n.toInt ∧ n.toInt.natAbs < 9223372036854775808 := by
  rw [toInt64?_eq_some_iff_truncate, value_eq_intCast_iff, and_assoc]

/-- The integer of a double is the number that it denotes. -/
theorem value_eq_toInt64? {x : Finite} {n : Int64} (h : x.toInt64? = some n) :
    x.value = n.toInt :=
  (toInt64?_eq_some_iff.mp h).1

/-- The conversion to 64 bits keeps the value of the doubles that pass its test and of
`-2 ^ 63`, and of no other. -/
theorem toInt64_eq_value_iff {x : Finite} : (x.toInt64.toInt : ℚ) = x.value ↔
    x.toInt64? = some x.toInt64 ∨ x.value = -9223372036854775808 := by
  constructor
  · intro h
    by_cases hleast : x.toInt64.toInt = -9223372036854775808
    · rw [← h, hleast]
      exact .inr (by norm_num)
    · have hge := x.toInt64.le_toInt
      have hlt := x.toInt64.toInt_lt
      exact .inl (toInt64?_eq_some_iff.mpr ⟨h.symm, by omega⟩)
  · rintro (h | h)
    · exact (value_eq_toInt64? h).symm
    · have hvalue : x.value = ((-9223372036854775808 : Int) : ℚ) := by rw [h]; norm_num
      obtain ⟨-, htruncate⟩ := value_eq_intCast_iff.mp hvalue
      rw [hvalue, toInt_toInt64, htruncate]
      rfl

end Finite

end EventQuery
