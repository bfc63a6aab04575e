import EventQuery.Double.Text
import Mathlib.Data.List.TakeDrop
import Mathlib.Tactic.Lemma

/-!
Decimal digits.

* `AreDigits`: characters that are digits; `span_digits` takes them off the front of
  a text.
* `digitsValue_decimalDigits`: the digits of a number have its value.
* `head?_decimalDigits_ne_zero`: they do not start with a zero, but for those of zero.
-/

namespace EventQuery

/-- Characters that are decimal digits, all of them. -/
def AreDigits (cs : List Char) : Prop := ∀ c ∈ cs, c.isDigit = true

namespace AreDigits

lemma append {cs ds : List Char} (hcs : AreDigits cs) (hds : AreDigits ds) :
    AreDigits (cs ++ ds) := List.forall_mem_append.mpr ⟨hcs, hds⟩

lemma zeros (n : Nat) : AreDigits (List.replicate n '0') := by
  intro c hc
  rw [List.eq_of_mem_replicate hc]
  rfl

end AreDigits

/-- Digits in front of something else are taken off as a whole. -/
lemma span_digits {ds : List Char} (hds : AreDigits ds) (rest : List Char)
    (hrest : ∀ c, rest.head? = some c → c.isDigit = false) :
    (ds ++ rest).span Char.isDigit = (ds, rest) := by
  rw [List.span_eq_takeWhile_dropWhile, List.takeWhile_append_of_pos hds,
    List.dropWhile_append_of_pos hds]
  cases rest with
  | nil => rw [List.takeWhile_nil, List.append_nil, List.dropWhile_nil]
  | cons c rest =>
      have hc := hrest c rfl
      rw [List.takeWhile_cons_of_neg (by simp [hc]), List.append_nil,
        List.dropWhile_cons_of_neg (by simp [hc])]

/-! ### The digits of a number -/

lemma areDigits_decimalDigits (n : Nat) : AreDigits (decimalDigits n) :=
  fun _ hc => Nat.isDigit_of_mem_toDigits (by decide) (by decide) hc

lemma areDigits_paddedDigits (width n : Nat) : AreDigits (paddedDigits width n) :=
  (AreDigits.zeros _).append (areDigits_decimalDigits n)

lemma decimalDigits_ne_nil (n : Nat) : decimalDigits n ≠ [] := Nat.toDigits_ne_nil

/-- The digits of a number have its value. -/
lemma digitsValue_decimalDigits (n : Nat) : digitsValue (decimalDigits n) = n := by
  have h : Nat.ofDigitChars 10 (Nat.toDigits 10 n) 0 = n := Nat.ofDigitChars_ten_toDigits
  rwa [Nat.ofDigitChars_eq_foldl] at h

/-- The digits of a positive number do not start with a zero. -/
lemma head?_decimalDigits_ne_zero {n : Nat} (hn : n ≠ 0) :
    (decimalDigits n).head? ≠ some '0' := by
  induction n using Nat.strongRecOn with
  | ind n ih =>
      rw [decimalDigits, Nat.toDigits_eq_if (by decide)]
      split
      · rename_i hlt
        have hall : ∀ k < 10, k ≠ 0 → Nat.digitChar k ≠ '0' := by decide
        rw [List.head?_cons, ne_eq, Option.some.injEq]
        exact hall n hlt hn
      · rename_i hge
        have hrest := ih (n / 10) (by omega) (by omega)
        rw [decimalDigits] at hrest
        cases h : Nat.toDigits 10 (n / 10) with
        | nil => exact absurd h Nat.toDigits_ne_nil
        | cons c cs => rwa [h] at hrest

end EventQuery
