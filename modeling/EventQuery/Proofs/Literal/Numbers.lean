import EventQuery.Proofs.Double.Value
import EventQuery.Proofs.Pattern.Grammar

/-!
What is written for a literal that is a number.

A number is written with its exact value under every policy. Where whole numbers have a type
of their own, what is written follows from the number alone, however the literal was given,
with one exception: `-2 ^ 63` fits 64 bits, but only the integer is written as one.

* `Scalar.number?`: the number that a literal denotes.
* `Scalar.encode_of_integral`: a whole number that fits 64 bits is written as an integer.
* `numbers_written_alike`: of two literals for one number, the written forms agree exactly
  if the number is not `-2 ^ 63` or both or none of them are integers.
-/

namespace EventQuery

namespace Scalar

/-- The number that a literal denotes, if it is one. -/
def number? : Scalar → Option ℚ
  | int n => some n.toInt
  | double (.finite x) => some x.value
  | _ => none

/-- A literal that was given as an integer. -/
def isInt : Scalar → Bool
  | int _ => true
  | _ => false

lemma number?_eq_some {s : Scalar} {q : ℚ} (h : s.number? = some q) :
    (∃ n, s = int n ∧ q = n.toInt) ∨ ∃ x, s = double (.finite x) ∧ q = x.value := by
  rcases s with n | (x | x) | b | t
  · exact .inl ⟨n, rfl, (Option.some.inj h).symm⟩
  · exact .inr ⟨x, rfl, (Option.some.inj h).symm⟩
  all_goals cases h

/-! ### Doubles where whole numbers have a type of their own -/

lemma encode_double_of_some {x : Finite} {n : Int64} (h : x.toInt64? = some n) :
    (double (.finite x)).encode .integralAsInt
      = .ok (.object (typedObject "int" (.integer n.toInt))) := by
  simp only [encode, value, tag, Double.toInt64?, h]
  rfl

lemma encode_double_of_none {x : Finite} (h : x.toInt64? = none) :
    (double (.finite x)).encode .integralAsInt
      = .ok (.object (typedObject "double" (.double x))) := by
  simp only [encode, value, tag, Double.toInt64?, h]
  rfl

/-- A whole number that fits 64 bits is written as an integer, `-2 ^ 63` only if it was given
as one. -/
lemma encode_of_integral {s : Scalar} {i : Int} (h : s.number? = some (i : ℚ))
    (hfits : fitsInt64 i = true) (hleast : i = -9223372036854775808 → s.isInt = true) :
    s.encode .integralAsInt = .ok (.object (typedObject "int" (.integer i))) := by
  obtain ⟨n, rfl, hn⟩ | ⟨x, rfl, hx⟩ := number?_eq_some h
  · have hi : i = n.toInt := by exact_mod_cast hn
    rw [hi]
    rfl
  · have hne : i ≠ -9223372036854775808 := fun hi => Bool.false_ne_true (hleast hi)
    simp only [fitsInt64, decide_eq_true_eq] at hfits
    have hi : (Int64.ofInt i).toInt = i := Int64.toInt_ofInt_of_le (by omega) (by omega)
    have hsome : x.toInt64? = some (.ofInt i) := by
      rw [Finite.toInt64?_eq_some_iff, hi]
      exact ⟨hx.symm, by omega⟩
    rw [encode_double_of_some hsome, hi]

/-- The double `-2 ^ 63` is not written as an integer, which the integer is. -/
lemma encode_least_ne {s t : Scalar} (hs : s.number? = some (-9223372036854775808))
    (ht : t.number? = some (-9223372036854775808)) (hsint : s.isInt = true)
    (htint : t.isInt = false) : s.encode .integralAsInt ≠ t.encode .integralAsInt := by
  obtain ⟨n, rfl, -⟩ | ⟨x, rfl, hx⟩ := number?_eq_some ht
  · cases htint
  · have hint := encode_of_integral (i := -9223372036854775808) (by exact_mod_cast hs) rfl
      fun _ => hsint
    have hnone : x.toInt64? = none := by
      refine Option.eq_none_iff_forall_ne_some.mpr fun n hn => ?_
      obtain ⟨hvalue, hlt⟩ := Finite.toInt64?_eq_some_iff.mp hn
      have hleast : n.toInt = -9223372036854775808 := by
        exact_mod_cast hvalue.symm.trans hx.symm
      omega
    rw [hint, encode_double_of_none hnone]
    simp [typedObject]

/-- An integer is written as any literal for the same number, except for the double
`-2 ^ 63`. -/
lemma encode_int_eq {n : Int64} {t : Scalar} (ht : t.number? = some (n.toInt : ℚ))
    (hleast : n.toInt = -9223372036854775808 → t.isInt = true) :
    (int n).encode .integralAsInt = t.encode .integralAsInt := by
  rw [encode_of_integral ht (fitsInt64_toInt n) hleast]
  rfl

/-- Doubles are written alike if they denote one number. -/
lemma encode_double_eq {x y : Finite} (h : x.value = y.value) :
    (double (.finite x)).encode .integralAsInt = (double (.finite y)).encode .integralAsInt := by
  have hequal := Finite.value_eq_iff.mp h
  cases hx : x.toInt64? with
  | none => rw [Finite.eq_of_equal hequal hx]
  | some n =>
      rw [encode_double_of_some hx, encode_double_of_some (Finite.toInt64?_congr hequal ▸ hx)]

end Scalar

/-- **Where whole numbers have a type of their own, the number tells what is written.** Two
literals that denote one number are both written, and what is written for them is the same
unless the number is `-2 ^ 63` and only one of them was given as an integer. A whole number
that fits 64 bits is written as an integer of type `int`, except for the double
`-2 ^ 63`. -/
theorem numbers_written_alike {s t : Scalar} {q : ℚ} (hs : s.number? = some q)
    (ht : t.number? = some q) :
    (∃ v, s.encode .integralAsInt = .ok v) ∧
      (s.encode .integralAsInt = t.encode .integralAsInt ↔
        (q = -9223372036854775808 → s.isInt = t.isInt)) ∧
      ∀ i : Int, q = i → fitsInt64 i = true → (i = -9223372036854775808 → s.isInt = true) →
        s.encode .integralAsInt = .ok (.object (typedObject "int" (.integer i))) := by
  refine ⟨?_, ⟨?_, ?_⟩, ?_⟩
  · obtain ⟨n, rfl, -⟩ | ⟨x, rfl, -⟩ := Scalar.number?_eq_some hs
    · exact ⟨_, rfl⟩
    · cases hx : x.toInt64? with
      | none => exact ⟨_, Scalar.encode_double_of_none hx⟩
      | some n => exact ⟨_, Scalar.encode_double_of_some hx⟩
  · rintro heq rfl
    cases hsint : s.isInt <;> cases htint : t.isInt
    · rfl
    · exact absurd heq.symm (Scalar.encode_least_ne ht hs htint hsint)
    · exact absurd heq (Scalar.encode_least_ne hs ht hsint htint)
    · rfl
  · intro hleast
    obtain ⟨n, rfl, rfl⟩ | ⟨x, rfl, rfl⟩ := Scalar.number?_eq_some hs
    · exact Scalar.encode_int_eq ht fun h => (hleast (by exact_mod_cast h)).symm
    · obtain ⟨n, rfl, hn⟩ | ⟨y, rfl, hy⟩ := Scalar.number?_eq_some ht
      · rw [hn] at hs hleast
        exact (Scalar.encode_int_eq hs fun h => hleast (by exact_mod_cast h)).symm
      · exact Scalar.encode_double_eq hy
  · rintro i rfl hfits hi
    exact Scalar.encode_of_integral hs hfits hi

/-- The double after `-2 ^ 63`. -/
def Finite.secondMinInt64 : Finite :=
  ⟨true, 9007199254740991, 10, by decide, by decide, by decide, by decide⟩

theorem secondMinInt64_written_alike :
    (Scalar.int (-9223372036854774784)).number? = some (-9223372036854774784) ∧
      (Scalar.double (.finite .secondMinInt64)).number? = some (-9223372036854774784) ∧
      (Scalar.int (-9223372036854774784)).encode .integralAsInt
        = (Scalar.double (.finite .secondMinInt64)).encode .integralAsInt ∧
      (Scalar.double (.finite .secondMinInt64)).encode .integralAsInt
        = .ok (.object (typedObject "int" (.integer (-9223372036854774784)))) := by
  have hint : (Scalar.int (-9223372036854774784)).number? = some (-9223372036854774784) := by
    rw [Scalar.number?, show Int64.toInt (-9223372036854774784) = -9223372036854774784 from rfl]
    norm_num
  have hdouble : (Scalar.double (.finite .secondMinInt64)).number?
      = some (-9223372036854774784) := by
    norm_num [Scalar.number?, Finite.value, Finite.secondMinInt64]
  obtain ⟨-, halike, -⟩ := numbers_written_alike hint hdouble
  obtain ⟨-, -, hinteger⟩ := numbers_written_alike hdouble hint
  exact ⟨hint, hdouble, halike.mpr (by norm_num), hinteger _ (by norm_num) rfl (by decide)⟩

/-- The double `-2 ^ 63`. -/
def Finite.minInt64 : Finite :=
  ⟨true, 4503599627370496, 11, by decide, by decide, by decide, by decide⟩

/-- `-2 ^ 63` is written in two ways, as the integer and as the double. -/
theorem minInt64_written_apart :
    (Scalar.int (-9223372036854775808)).number? = some (-9223372036854775808) ∧
      (Scalar.double (.finite .minInt64)).number? = some (-9223372036854775808) ∧
      (Scalar.int (-9223372036854775808)).encode .integralAsInt
        = .ok (.object (typedObject "int" (.integer (-9223372036854775808)))) ∧
      (Scalar.double (.finite .minInt64)).encode .integralAsInt
        = .ok (.object (typedObject "double" (.double .minInt64))) := by
  refine ⟨?_, ?_, rfl, rfl⟩
  · rw [Scalar.number?, show Int64.toInt (-9223372036854775808) = -9223372036854775808 from rfl]
    norm_num
  · norm_num [Scalar.number?, Finite.value, Finite.minInt64]

end EventQuery
