import EventQuery.Proofs.Double.Rounding
import EventQuery.Proofs.Literal.Numbers
import EventQuery.Proofs.Pattern.Policy

/-!
Numbers of machine types as literals.

A number of a machine type becomes a literal with the same value wherever one can hold it:
integers that fit 64 bits stay integers, and a single-precision number is a double. Wider
integers become the nearest double.

* `Single`, `MachineNumber`: the numbers that can be given, by their value;
  `NumberType.exists_of_read?`: every text that is read is read as one of its type.
* `MachineNumber.Becomes`: the literal that a number should become.
* `Scalar.exists_encode`: a number is written with its exact value, and with the type that
  goes with the form of the written number.
* `numbers_keep_value`: both together, from the number that is given to what is written.
-/

namespace EventQuery

/-! ### Single precision -/

/-- A finite single-precision number `± significand * 2 ^ exponent`. -/
structure FiniteSingle where
  negative : Bool
  significand : Nat
  exponent : Int
  significand_lt : significand < 16777216
  exponent_ge : -149 ≤ exponent
  exponent_le : exponent ≤ 104

/-- The number that a finite single-precision number denotes. -/
def FiniteSingle.value (x : FiniteSingle) : ℚ :=
  signed x.negative (x.significand * 2 ^ x.exponent)

/-- A single-precision number. -/
inductive Single where
  | finite (value : FiniteSingle)
  | nonFinite (value : NonFinite)

namespace Single

/-- Infinity with a sign. -/
def infinity (negative : Bool) : Single := nonFinite (.infinity negative)

/-- A single-precision number as a double. -/
def toDouble : Single → Double
  | finite x =>
    if 0 ≤ x.exponent then .ofRatio x.negative (x.significand * Nat.pow 2 x.exponent.toNat) 1
    else .ofRatio x.negative x.significand (Nat.pow 2 (-x.exponent).toNat)
  | nonFinite x => .nonFinite x

/-- Single-precision numbers are doubles: nothing is rounded. -/
lemma exists_toDouble (x : FiniteSingle) :
    ∃ y, (finite x).toDouble = .finite y ∧ y.negative = x.negative ∧ y.value = x.value := by
  have hm := x.significand_lt
  have hge := x.exponent_ge
  have hle := x.exponent_le
  rw [toDouble, FiniteSingle.value]
  split
  · rename_i he
    refine Double.exists_ofRatio_of_eq _ Nat.one_pos (by omega) (by omega) (by omega) ?_
    obtain ⟨k, hk⟩ := Int.eq_ofNat_of_zero_le he
    rw [hk, Int.toNat_natCast, Nat.pow_eq, zpow_natCast, Nat.cast_one, div_one]
    push_cast
    rfl
  · rename_i he
    refine Double.exists_ofRatio_of_eq _ (Nat.pow_pos (by decide)) (by omega) (by omega)
      (by omega) ?_
    obtain ⟨k, hk⟩ : ∃ k : Nat, x.exponent = -(k : Int) := ⟨(-x.exponent).toNat, by omega⟩
    rw [hk, neg_neg, Int.toNat_natCast, Nat.pow_eq, zpow_neg, zpow_natCast, ← div_eq_mul_inv]
    push_cast
    rfl

end Single

/-- A quotient that is rounded to single precision is a single-precision number. -/
lemma Double.exists_ofRatioSingle (negative : Bool) (num : Nat) {den : Nat} (hden : 0 < den) :
    ∃ x : Single, ofRatioSingle negative num den = x.toDouble := by
  have hrounds := BinaryFormat.binary32.rounds_nearest (by decide) num hden
  cases hparts : BinaryFormat.binary32.nearest num den with
  | mk m e =>
    rw [hparts] at hrounds
    by_cases hle : e ≤ 104
    · have hsome : BinaryFormat.binary32.nearest? num den = some (m, e) := by
        rw [BinaryFormat.nearest?, hparts]
        exact if_pos hle
      exact ⟨.finite ⟨negative, m, e, hrounds.significand_lt, hrounds.exponent_ge, hle⟩, by
        rw [ofRatioSingle, hsome]; rfl⟩
    · have hnone : BinaryFormat.binary32.nearest? num den = none := by
        rw [BinaryFormat.nearest?, hparts]
        exact if_neg hle
      exact ⟨.infinity negative, by rw [ofRatioSingle, hnone]; rfl⟩

lemma Decimal.ratio_pos (d : Decimal) : 0 < d.ratio.2 := by
  rw [ratio]
  split
  · exact Nat.one_pos
  · exact Nat.pow_pos (by decide)

/-- So is a number that is read in single precision. -/
lemma NumberLiteral.exists_toSingle (l : NumberLiteral) :
    ∃ x : Single, l.toSingle = x.toDouble := by
  cases l with
  | named x => exact ⟨.nonFinite x, rfl⟩
  | decimal negative d =>
      have hzero : Double.finite (.zero negative) = (Single.finite
          ⟨negative, 0, -149, by decide, by decide, by decide⟩).toDouble := rfl
      rw [toSingle, Double.ofDecimalSingle]
      split
      · exact ⟨_, hzero⟩
      · split
        · exact ⟨.infinity negative, rfl⟩
        · split
          · exact ⟨_, hzero⟩
          · exact Double.exists_ofRatioSingle negative _ d.ratio_pos

/-! ### Numbers of all types -/

/-- A number of a machine type. -/
inductive MachineNumber where
  | integer (value : Int)
  | single (value : Single)
  | double (value : Double)

/-- The numbers of a type: integers in its range, or floating-point numbers. -/
def NumberType.Holds : NumberType → MachineNumber → Prop
  | signed bits, .integer n => -(2 ^ (bits - 1)) ≤ n ∧ n < 2 ^ (bits - 1)
  | unsigned bits, .integer n => 0 ≤ n ∧ n < 2 ^ bits
  | single, .single _ => True
  | double, .double _ => True
  | _, _ => False

namespace MachineNumber

/-- A number as a literal. -/
def toScalar : MachineNumber → Scalar
  | integer n => .ofInt n
  | single x => .double x.toDouble
  | double x => .double x

/-- A number that a text stands for. -/
def IsWritten (text : String) : MachineNumber → Prop
  | integer n => readInteger? text = some n
  | single x => ∃ l, NumberLiteral.read? text = some l ∧ l.toSingle = x.toDouble
  | double x => ∃ l, NumberLiteral.read? text = some l ∧ l.toDouble = x

/-- The literal that a number should become: an integer that fits 64 bits the same integer, a
wider one the nearest double, and a floating-point number the double that it is. -/
inductive Becomes : MachineNumber → Scalar → Prop where
  | fitting {n : Int} {k : Int64} : fitsInt64 n = true → k.toInt = n →
      Becomes (.integer n) (.int k)
  | wide {n : Int} {x : Finite} : fitsInt64 n = false → x.IsNearest n →
      Becomes (.integer n) (.double (.finite x))
  | single {x : FiniteSingle} {y : Finite} : y.negative = x.negative → y.value = x.value →
      Becomes (.single (.finite x)) (.double (.finite y))
  | nonFiniteSingle (x : NonFinite) : Becomes (.single (.nonFinite x)) (.double (.nonFinite x))
  | double (x : Double) : Becomes (.double x) (.double x)

end MachineNumber

/-- An integer becomes itself, or the nearest double if it is too wide. -/
lemma Scalar.becomes_ofInt {n : Int} (h : n.natAbs ≤ 2 ^ 128) :
    MachineNumber.Becomes (.integer n) (.ofInt n) := by
  rw [ofInt]
  split
  · rename_i hfits
    refine .fitting hfits ?_
    simp only [fitsInt64, decide_eq_true_eq] at hfits
    exact Int64.toInt_ofInt_of_le hfits.1 hfits.2
  · rename_i hfits
    obtain ⟨x, hx, hnear⟩ := Double.exists_ofInt h
    rw [hx]
    exact .wide (by simpa using hfits) hnear

lemma MachineNumber.becomes_toScalar {v : MachineNumber}
    (h : ∀ n, v = integer n → n.natAbs ≤ 2 ^ 128) : v.Becomes v.toScalar := by
  cases v with
  | integer n => exact Scalar.becomes_ofInt (h n rfl)
  | single x =>
      cases x with
      | finite x =>
          obtain ⟨y, hy, hsign, hvalue⟩ := Single.exists_toDouble x
          rw [toScalar, hy]
          exact .single hsign hvalue
      | nonFinite x => exact .nonFiniteSingle x
  | double x => exact .double x

/-- A number without a minus is read as no negative integer. -/
lemma readInteger?_nonneg {text : String} {n : Int} (hminus : text.toList.head? ≠ some '-')
    (h : readInteger? text = some n) : 0 ≤ n := by
  have hsign : (readSign text.toList).1 = false := by
    unfold readSign
    split
    · rename_i heq
      rw [heq] at hminus
      exact absurd rfl hminus
    · rfl
    · rfl
  rw [readInteger?] at h
  simp only [hsign, Bool.false_eq_true, if_false] at h
  split at h
  · cases h
    exact Int.natCast_nonneg _
  · cases h

namespace NumberType

/-- No integer type has more than 128 bits. -/
lemma bits_le_of_ofName? {name : String} {bits : Nat}
    (h : ofName? name = some (signed bits) ∨ ofName? name = some (unsigned bits)) :
    bits ≤ 128 := by
  rcases h with h | h <;>
    (unfold ofName? at h; split at h <;> cases h <;> decide)

lemma natAbs_le_of_holds {name : String} {type : NumberType} (hname : ofName? name = some type)
    {n : Int} (h : type.Holds (.integer n)) : n.natAbs ≤ 2 ^ 128 := by
  cases type with
  | signed bits =>
      have hbits := bits_le_of_ofName? (.inl hname)
      have hpow : 2 ^ (bits - 1) ≤ 2 ^ 128 := Nat.pow_le_pow_right (by decide) (by omega)
      have hcast : ((2 ^ (bits - 1) : Nat) : Int) = 2 ^ (bits - 1) := by push_cast; rfl
      rw [Holds, ← hcast] at h
      omega
  | unsigned bits =>
      have hbits := bits_le_of_ofName? (.inr hname)
      have hpow : 2 ^ bits ≤ 2 ^ 128 := Nat.pow_le_pow_right (by decide) hbits
      have hcast : ((2 ^ bits : Nat) : Int) = 2 ^ bits := by push_cast; rfl
      rw [Holds, ← hcast] at h
      omega
  | single => exact h.elim
  | double => exact h.elim

/-- Whatever is read as a number of a type is one of its numbers, as a literal. -/
lemma exists_of_read? {type : NumberType} {text : String} {s : Scalar}
    (h : type.read? text = some s) :
    ∃ v, type.Holds v ∧ v.IsWritten text ∧ s = v.toScalar := by
  cases type with
  | signed bits =>
      obtain ⟨n, hread, hn⟩ := Option.bind_eq_some_iff.mp h
      simp only [Nat.pow_eq] at hn
      split at hn
      · rename_i hrange
        push_cast at hrange
        exact ⟨.integer n, hrange, hread, (Option.some.inj hn).symm⟩
      · cases hn
  | unsigned bits =>
      rw [read?] at h
      split at h
      · cases h
      · rename_i hminus
        obtain ⟨n, hread, hn⟩ := Option.bind_eq_some_iff.mp h
        simp only [Nat.pow_eq] at hn
        split at hn
        · rename_i hlt
          push_cast at hlt
          exact ⟨.integer n, ⟨readInteger?_nonneg hminus hread, hlt⟩, hread,
            (Option.some.inj hn).symm⟩
        · cases hn
  | single =>
      obtain ⟨l, hl, rfl⟩ := Option.map_eq_some_iff.mp h
      obtain ⟨x, hx⟩ := l.exists_toSingle
      exact ⟨.single x, trivial, ⟨l, hl, hx⟩, by rw [hx]; rfl⟩
  | double =>
      obtain ⟨l, hl, rfl⟩ := Option.map_eq_some_iff.mp h
      exact ⟨.double l.toDouble, trivial, ⟨l, hl, rfl⟩, rfl⟩

end NumberType

/-! ### What is written -/

/-- A number is written under every policy, with its exact value. It goes by the type `double`
where all numbers do, and by that of the form of the written number where whole ones have a
type of their own. Integers that are written fit 64 bits. -/
lemma Scalar.exists_encode {s : Scalar} {q : ℚ} (h : s.number? = some q)
    (policy : NumberPolicy) :
    ∃ n : Number, s.encode policy = .ok (.object (typedObject (s.tag policy) (.number n))) ∧
      n.value = q ∧ (s.tag policy = if policy = .integralAsInt then n.tag else "double") ∧
      ∀ i, n = .integer i → fitsInt64 i = true := by
  have hfits : ∀ (n : Int64) i, Number.integer n.toInt = .integer i → fitsInt64 i = true := by
    rintro n _ ⟨⟩
    exact fitsInt64_toInt n
  obtain ⟨n, rfl, rfl⟩ | ⟨x, rfl, rfl⟩ := number?_eq_some h
  · refine ⟨.integer n.toInt, rfl, rfl, ?_, hfits n⟩
    cases policy <;> rfl
  · cases policy with
    | double => exact ⟨.double x, rfl, rfl, rfl, by simp⟩
    | integralAsInt =>
        cases hx : x.toInt64? with
        | none =>
            refine ⟨.double x, ?_, rfl, ?_, by simp⟩
            · rw [encode_double_of_none hx]
              simp only [tag, Double.toInt64?, hx]
              rfl
            · simp only [tag, Double.toInt64?, hx]
              rfl
        | some n =>
            refine ⟨.integer n.toInt, ?_, (Finite.value_eq_toInt64? hx).symm, ?_, hfits n⟩
            · rw [encode_double_of_some hx]
              simp only [tag, Double.toInt64?, hx]
              rfl
            · simp only [tag, Double.toInt64?, hx]
              rfl

/-- **Numbers keep their value.** A number of a machine type becomes the literal that it
should: an integer that fits 64 bits stays the same integer, a wider one becomes the nearest
double, of two the one with the even significand, and a floating-point number stays what it
is; and whatever is read as a number of the type is one of those. A literal that is a number
is written with exactly that number under every policy. Its type is `int` exactly if whole
numbers have a type of their own and it is written as an integer, one that fits 64 bits, and
`double` otherwise. The conversion of doubles to 64 bits, which cuts off and saturates, is used
only where it keeps the value; of the values that it keeps, `-2 ^ 63` alone is passed over. -/
theorem numbers_keep_value :
    (∀ name type, NumberType.ofName? name = some type →
      (∀ v, type.Holds v → v.Becomes v.toScalar) ∧
      ∀ text s, type.read? text = some s →
        ∃ v, type.Holds v ∧ v.IsWritten text ∧ s = v.toScalar) ∧
    (∀ (s : Scalar) (q : ℚ), s.number? = some q → ∀ policy, ∃ n : Number,
      s.encode policy = .ok (.object (typedObject (s.tag policy) (.number n))) ∧ n.value = q ∧
        (s.tag policy = if policy = .integralAsInt then n.tag else "double") ∧
        ∀ i, n = .integer i → fitsInt64 i = true) ∧
    ∀ x : Finite, (x.toInt64.toInt : ℚ) = x.value ↔
      x.toInt64? = some x.toInt64 ∨ x.value = -9223372036854775808 := by
  refine ⟨fun name type hname => ⟨fun v hv => ?_, fun text s h => ?_⟩, fun s q h policy => ?_,
    fun x => Finite.toInt64_eq_value_iff⟩
  · refine MachineNumber.becomes_toScalar fun n hn => ?_
    subst hn
    exact NumberType.natAbs_le_of_holds hname hv
  · exact NumberType.exists_of_read? h
  · exact Scalar.exists_encode h policy

/-- The double `2 ^ 63`. -/
def Finite.twoPow63 : Finite := { Finite.minInt64 with negative := false }

theorem tiedInteger_kept :
    NumberType.ofName? "u64" = some (.unsigned 64) ∧
      (NumberType.unsigned 64).Holds (.integer 9223372036854776832) ∧
      MachineNumber.Becomes (.integer 9223372036854776832) (.double (.finite .twoPow63)) ∧
      (NumberType.unsigned 64).read? "9223372036854776832"
        = some (.double (.finite .twoPow63)) ∧
      (∃ v, (NumberType.unsigned 64).Holds v ∧ v.IsWritten "9223372036854776832" ∧
        Scalar.double (.finite .twoPow63) = v.toScalar) ∧
      (Scalar.double (.finite .twoPow63)).number? = some 9223372036854775808 ∧
      Finite.twoPow63.toInt64 = 9223372036854775807 ∧ Finite.twoPow63.toInt64? = none ∧
      ∃ n : Number, (Scalar.double (.finite .twoPow63)).encode .integralAsInt
        = .ok (.object (typedObject "double" (.number n))) ∧ n.value = 9223372036854775808 := by
  have hname : NumberType.ofName? "u64" = some (.unsigned 64) := rfl
  have hholds : (NumberType.unsigned 64).Holds (.integer 9223372036854776832) := by
    norm_num [NumberType.Holds]
  have hread : (NumberType.unsigned 64).read? "9223372036854776832"
      = some (.double (.finite .twoPow63)) := by decide +kernel
  have hnumber : (Scalar.double (.finite .twoPow63)).number? = some 9223372036854775808 := by
    norm_num [Scalar.number?, Finite.value, Finite.twoPow63, Finite.minInt64]
  have hscalar : (MachineNumber.integer 9223372036854776832).toScalar
      = .double (.finite .twoPow63) := by decide +kernel
  obtain ⟨htypes, hwritten, -⟩ := numbers_keep_value
  obtain ⟨hbecomes, htexts⟩ := htypes _ _ hname
  obtain ⟨n, hencode, hvalue, -⟩ := hwritten _ _ hnumber .integralAsInt
  exact ⟨hname, hholds, hscalar ▸ hbecomes _ hholds, hread, htexts _ _ hread, hnumber, rfl, rfl,
    n, hencode, hvalue⟩

end EventQuery
