import EventQuery.Double.Basic
import Mathlib.Data.Nat.Basic
import Mathlib.Tactic.Lemma

/-!
Finite doubles as multiples of the least one, and their integer values.

Every finite double is a natural number of units of `2 ^ (-1074)` with a sign
(`Finite.units`), and since a value has one form, the units and the sign tell
the double (`Finite.eq_of_units`). A double that is an integer is that many times
the units of one (`Finite.units_of_isIntegral`), so the integer tells it up to the
sign of zero (`Finite.equal_of_toInt64?`). The conversion to 64 bits cuts off and
saturates (`Finite.toInt_toInt64`), and behind its test it does neither
(`Finite.toInt64?_eq_some_iff_truncate`).
-/

namespace EventQuery

namespace Finite

/-- The least positive double is two to the minus this. -/
@[irreducible]
def depth : Nat := 1074

/-- The magnitude in units of the least positive double. -/
def units (x : Finite) : Nat := x.significand * Nat.pow 2 (x.exponent + depth).toNat

/-- The number one in these units. -/
def unitsOfOne : Nat := Nat.pow 2 depth

lemma depth_eq : depth = 1074 := by rw [depth]

/-- The least full significand is below the bound of all. -/
lemma leastFull_lt : 4503599627370496 < 9007199254740992 := by decide

lemma units_eq_zero {x : Finite} : x.units = 0 ↔ x.significand = 0 := by
  rw [units, Nat.pow_eq, Nat.mul_eq_zero, or_iff_left (Nat.ne_of_gt (Nat.two_pow_pos _))]

/-- Of two doubles with one magnitude, neither has the larger exponent. -/
lemma exponent_le_of_units {x y : Finite} (h : x.units = y.units) :
    y.exponent ≤ x.exponent := by
  by_contra hlt
  have hx := x.exponent_ge
  have hy := y.exponent_ge
  have hdepth := depth_eq
  -- the larger exponent is not the least one, so its significand is full
  have hfull : 4503599627370496 ≤ y.significand := by
    rcases y.canonical with h0 | h0
    · omega
    · exact h0
  obtain ⟨d, hd⟩ : ∃ d : Nat, (y.exponent + depth).toNat = (x.exponent + depth).toNat + (d + 1) :=
    ⟨(y.exponent - x.exponent).toNat - 1, by omega⟩
  have hpos : 0 < 2 ^ (x.exponent + depth).toNat := Nat.two_pow_pos _
  have hsig : x.significand = y.significand * 2 ^ (d + 1) := by
    rw [units, units, hd, Nat.pow_eq, Nat.pow_eq, Nat.pow_add, ← Nat.mul_assoc,
      Nat.mul_right_comm] at h
    exact Nat.eq_of_mul_eq_mul_right hpos h
  have hlarge : y.significand * 2 ≤ x.significand := by
    rw [hsig, Nat.pow_succ', ← Nat.mul_assoc]
    exact Nat.le_mul_of_pos_right _ (Nat.two_pow_pos d)
  have hx' := x.significand_lt
  omega

/-- A value has one form: the sign and the magnitude tell the double. -/
theorem eq_of_units {x y : Finite} (hs : x.negative = y.negative) (h : x.units = y.units) :
    x = y := by
  have he : x.exponent = y.exponent :=
    Int.le_antisymm (exponent_le_of_units h.symm) (exponent_le_of_units h)
  have hm : x.significand = y.significand := by
    rw [units, units, he, Nat.pow_eq] at h
    exact Nat.eq_of_mul_eq_mul_right (Nat.two_pow_pos _) h
  cases x
  cases y
  simp_all

/-! ### Integral doubles -/

lemma ratio_pos (x : Finite) : 0 < x.ratio.2 := by
  rw [ratio]
  split
  · exact Nat.one_pos
  · exact Nat.two_pow_pos _

/-- The magnitude in units is the quotient times the units of one. -/
lemma units_mul_ratio (x : Finite) : x.units * x.ratio.2 = x.ratio.1 * unitsOfOne := by
  have hx := x.exponent_ge
  have hdepth := depth_eq
  rw [ratio]
  split
  · have hshift : (x.exponent + depth).toNat = x.exponent.toNat + depth := by omega
    rw [Nat.mul_one, units, unitsOfOne, hshift, Nat.pow_eq, Nat.pow_eq, Nat.pow_eq, Nat.pow_add,
      Nat.mul_assoc]
  · have hshift : depth = (x.exponent + depth).toNat + (-x.exponent).toNat := by omega
    calc x.significand * 2 ^ (x.exponent + depth).toNat * 2 ^ (-x.exponent).toNat
        = x.significand * 2 ^ ((x.exponent + depth).toNat + (-x.exponent).toNat) := by
          rw [Nat.pow_add, Nat.mul_assoc]
      _ = x.significand * unitsOfOne := by rw [← hshift, unitsOfOne, Nat.pow_eq]

lemma natAbs_truncate (x : Finite) : x.truncate.natAbs = x.ratio.1 / x.ratio.2 := by
  rw [truncate]
  split
  · rw [Int.natAbs_neg, Int.natAbs_natCast]
  · rw [Int.natAbs_natCast]

lemma truncate_eq_natAbs (x : Finite) :
    x.truncate = if x.negative then -(x.truncate.natAbs : Int) else x.truncate.natAbs := by
  rw [natAbs_truncate, truncate]

/-- Where nothing is behind the point, nothing is cut off. -/
lemma natAbs_truncate_mul {x : Finite} (h : x.isIntegral = true) :
    x.truncate.natAbs * x.ratio.2 = x.ratio.1 := by
  rw [natAbs_truncate, Nat.div_mul_cancel (Nat.dvd_of_mod_eq_zero (eq_of_beq h))]

/-- An integral double is that many times the units of one. -/
lemma units_of_isIntegral {x : Finite} (h : x.isIntegral = true) :
    x.units = x.truncate.natAbs * unitsOfOne := by
  refine Nat.eq_of_mul_eq_mul_right x.ratio_pos ?_
  rw [units_mul_ratio, ← natAbs_truncate_mul h, Nat.mul_right_comm]

/-! ### The conversion to 64 bits -/

/-- The conversion saturates. -/
lemma toInt_toInt64 (x : Finite) : x.toInt64.toInt
    = max (-9223372036854775808) (min 9223372036854775807 x.truncate) :=
  Int64.toInt_ofInt_of_le (by omega) (by omega)

/-- It is the integer behind it where that fits. -/
lemma toInt_toInt64_of_natAbs_lt {x : Finite} (h : x.truncate.natAbs < 9223372036854775808) :
    x.toInt64.toInt = x.truncate := by
  rw [toInt_toInt64]
  omega

lemma isBelowTwoPow63_iff {x : Finite} :
    x.isBelowTwoPow63 = true ↔ x.truncate.natAbs < 9223372036854775808 := by
  rw [isBelowTwoPow63, decide_eq_true_eq, natAbs_truncate, Nat.div_lt_iff_lt_mul x.ratio_pos]

/-- The conversion behind its test never cuts off and never saturates. -/
lemma toInt64?_eq_some_iff_truncate {x : Finite} {n : Int64} : x.toInt64? = some n ↔
    x.isIntegral = true ∧ x.truncate = n.toInt ∧ n.toInt.natAbs < 9223372036854775808 := by
  rw [toInt64?]
  constructor
  · intro h
    split at h
    · rename_i htest
      obtain ⟨hint, hlt⟩ := Bool.and_eq_true_iff.mp htest
      have hlt := isBelowTwoPow63_iff.mp hlt
      obtain rfl := Option.some.inj h
      rw [toInt_toInt64_of_natAbs_lt hlt]
      exact ⟨hint, rfl, hlt⟩
    · cases h
  · rintro ⟨hint, htruncate, hlt⟩
    rw [← htruncate] at hlt
    rw [hint, isBelowTwoPow63_iff.mpr hlt, Bool.and_self, if_pos rfl, Option.some.injEq,
      ← Int64.toInt_inj, toInt_toInt64_of_natAbs_lt hlt, htruncate]

/-- Zero of either sign is the integer zero. -/
lemma toInt64?_of_isZero {x : Finite} (h : x.isZero = true) : x.toInt64? = some 0 := by
  have hsig : x.significand = 0 := by simpa [isZero] using h
  have hnum : x.ratio.1 = 0 := by
    rw [ratio]
    split <;> simp [hsig]
  have htruncate : x.truncate.natAbs = 0 := by rw [natAbs_truncate, hnum, Nat.zero_div]
  refine toInt64?_eq_some_iff_truncate.mpr ⟨?_, Int.natAbs_eq_zero.mp htruncate, by decide⟩
  rw [isIntegral, hnum, Nat.zero_mod]
  rfl

/-- Doubles that are equal as numbers have the same integer value, if any. -/
lemma toInt64?_congr {x y : Finite} (h : x.equal y = true) : x.toInt64? = y.toInt64? := by
  rw [equal, Bool.or_eq_true, Bool.and_eq_true, beq_iff_eq] at h
  rcases h with ⟨hx, hy⟩ | rfl
  · rw [toInt64?_of_isZero hx, toInt64?_of_isZero hy]
  · rfl

/-- Doubles that are equal as numbers and no integers are the same. -/
lemma eq_of_equal {x y : Finite} (h : x.equal y = true) (hx : x.toInt64? = none) :
    x = y := by
  rw [equal, Bool.or_eq_true, Bool.and_eq_true, beq_iff_eq] at h
  rcases h with ⟨hzero, -⟩ | h
  · rw [toInt64?_of_isZero hzero] at hx
    cases hx
  · exact h

/-- Doubles with one integer value are equal as numbers. -/
theorem equal_of_toInt64? {x y : Finite} {n : Int64} (hx : x.toInt64? = some n)
    (hy : y.toInt64? = some n) : x.equal y = true := by
  obtain ⟨hxint, hxn, -⟩ := toInt64?_eq_some_iff_truncate.mp hx
  obtain ⟨hyint, hyn, -⟩ := toInt64?_eq_some_iff_truncate.mp hy
  have hunits : x.units = y.units := by
    rw [units_of_isIntegral hxint, units_of_isIntegral hyint, hxn, hyn]
  rw [equal, Bool.or_eq_true, Bool.and_eq_true, beq_iff_eq]
  by_cases h0 : n.toInt = 0
  · have hx0 : x.significand = 0 := by
      rw [← units_eq_zero, units_of_isIntegral hxint, hxn, h0, Int.natAbs_zero, Nat.zero_mul]
    have hy0 : y.significand = 0 := by rw [← units_eq_zero, ← hunits, units_eq_zero, hx0]
    exact Or.inl ⟨by simp [isZero, hx0], by simp [isZero, hy0]⟩
  · -- away from zero the sign of the integer is the sign of the double
    have hsign : x.negative = y.negative := by
      have hxs := x.truncate_eq_natAbs
      have hys := y.truncate_eq_natAbs
      cases hxneg : x.negative <;> cases hyneg : y.negative <;>
        simp only [hxneg, hyneg, Bool.false_eq_true, if_false, if_true] at hxs hys <;>
        first | rfl | omega
    exact Or.inr (eq_of_units hsign hunits)

end Finite

end EventQuery
