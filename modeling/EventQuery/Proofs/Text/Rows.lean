import EventQuery.Proofs.Text.Digits
import Mathlib.Algebra.Order.Ring.Nat
import Mathlib.Data.List.Forall2

/-!
Numbers in columns.

A number that is written with zeros in front up to a width is found again at that width, and of
two such numbers the smaller one comes first as a text. So do rows of numbers in columns of fixed
widths: texts of the same columns are in the order of the rows.

* `AreDigits.lt_iff`: as many digits are in the order of their values.
* `digitsValue_paddedDigits`, `length_paddedDigits`: padded digits have the value of their number
  and fill their width.
* `Fits.rowText_lt_iff`: rows that fit their columns are in the order of their numbers.
-/

namespace EventQuery

/-! ### The value of digits -/

/-- The value of a digit. -/
def digitValue (c : Char) : Nat := c.toNat - '0'.toNat

lemma digitValue_lt {c : Char} (h : c.isDigit = true) : digitValue c < 10 := by
  have hnine : '9'.toNat = '0'.toNat + 9 := rfl
  have hrange := Char.isDigit_iff_toNat.mp h
  rw [digitValue]
  omega

lemma digitValue_lt_iff {c d : Char} (hc : c.isDigit = true) (hd : d.isDigit = true) :
    digitValue c < digitValue d ↔ c < d := by
  have hge := (Char.isDigit_iff_toNat.mp hc).1
  have hge' := (Char.isDigit_iff_toNat.mp hd).1
  have hval : c < d ↔ c.toNat < d.toNat := by
    rw [Char.lt_def, UInt32.lt_iff_toNat_lt]
    rfl
  rw [digitValue, digitValue, hval]
  omega

lemma digitValue_inj {c d : Char} (hc : c.isDigit = true) (hd : d.isDigit = true) :
    digitValue c = digitValue d ↔ c = d := by
  have hge := (Char.isDigit_iff_toNat.mp hc).1
  have hge' := (Char.isDigit_iff_toNat.mp hd).1
  rw [digitValue, digitValue, ← Char.toNat_inj]
  omega

lemma digitsValue_eq (ds : List Char) : digitsValue ds = Nat.ofDigitChars 10 ds 0 :=
  Nat.ofDigitChars_eq_foldl.symm

/-- A digit counts for the power of ten of those that follow it. -/
lemma digitsValue_cons (d : Char) (ds : List Char) :
    digitsValue (d :: ds) = 10 ^ ds.length * digitValue d + digitsValue ds := by
  rw [digitsValue_eq, digitsValue_eq, Nat.ofDigitChars_cons, Nat.mul_zero, Nat.zero_add,
    Nat.ofDigitChars_eq_ofDigitChars_zero, digitValue]

/-- Digits have a value below the power of ten of their number. -/
lemma AreDigits.digitsValue_lt {ds : List Char} (h : AreDigits ds) :
    digitsValue ds < 10 ^ ds.length := by
  induction ds with
  | nil => simp [digitsValue]
  | cons d ds ih =>
      obtain ⟨hd, hds⟩ := List.forall_mem_cons.mp h
      calc digitsValue (d :: ds)
          = 10 ^ ds.length * digitValue d + digitsValue ds := digitsValue_cons d ds
        _ < 10 ^ ds.length * digitValue d + 10 ^ ds.length := Nat.add_lt_add_left (ih hds) _
        _ = 10 ^ ds.length * (digitValue d + 1) := (Nat.mul_succ _ _).symm
        _ ≤ 10 ^ ds.length * 10 := Nat.mul_le_mul_left _ (digitValue_lt hd)
        _ = 10 ^ (d :: ds).length := (Nat.pow_succ ..).symm

/-- Numbers in a base are in the order of how often they have the base, then of the rest. -/
lemma mul_add_lt_mul_add_iff {base a b x y : Nat} (hx : x < base) (hy : y < base) :
    base * a + x < base * b + y ↔ a < b ∨ a = b ∧ x < y := by
  rcases Nat.lt_trichotomy a b with hlt | rfl | hgt
  · have hstep : base * a + base ≤ base * b := Nat.mul_le_mul_left base hlt
    omega
  · omega
  · have hstep : base * b + base ≤ base * a := Nat.mul_le_mul_left base hgt
    omega

/-- **Digits are in the order of their values** if there are as many of them. -/
lemma AreDigits.lt_iff {cs ds : List Char} (hcs : AreDigits cs) (hds : AreDigits ds)
    (hlength : cs.length = ds.length) : cs < ds ↔ digitsValue cs < digitsValue ds := by
  induction cs generalizing ds with
  | nil =>
      obtain rfl := List.length_eq_zero_iff.mp hlength.symm
      simp
  | cons c cs ih =>
      cases ds with
      | nil => simp at hlength
      | cons d ds =>
          obtain ⟨hc, hcs⟩ : c.isDigit = true ∧ AreDigits cs := List.forall_mem_cons.mp hcs
          obtain ⟨hd, hds⟩ : d.isDigit = true ∧ AreDigits ds := List.forall_mem_cons.mp hds
          have hrest : cs.length = ds.length := Nat.succ.inj hlength
          rw [digitsValue_cons, digitsValue_cons, ← hrest,
            mul_add_lt_mul_add_iff hcs.digitsValue_lt (hrest ▸ hds.digitsValue_lt),
            digitValue_lt_iff hc hd, digitValue_inj hc hd, ← ih hcs hds hrest,
            List.cons_lt_cons_iff]

/-! ### Padded digits -/

/-- Zeros in front do not count. -/
lemma digitsValue_paddedDigits (width n : Nat) : digitsValue (paddedDigits width n) = n := by
  rw [paddedDigits, digitsValue_eq, Nat.ofDigitChars_append, Nat.ofDigitChars_replicate_zero,
    Nat.mul_zero, ← digitsValue_eq, digitsValue_decimalDigits]

/-- A number that is not too long fills its width. -/
lemma length_paddedDigits {width n : Nat} (hwidth : 0 < width) (h : n < 10 ^ width) :
    (paddedDigits width n).length = width := by
  have hlength : (decimalDigits n).length ≤ width :=
    (Nat.length_toDigits_le_iff (by decide) hwidth).mpr h
  rw [paddedDigits, List.length_append, List.length_replicate]
  omega

lemma paddedDigits_inj {width m n : Nat} : paddedDigits width m = paddedDigits width n ↔ m = n := by
  refine ⟨fun h => ?_, fun h => h ▸ rfl⟩
  rw [← digitsValue_paddedDigits width m, h, digitsValue_paddedDigits]

/-- Padded digits are in the order of their numbers. -/
lemma paddedDigits_lt_iff {width m n : Nat} (hwidth : 0 < width) (hm : m < 10 ^ width)
    (hn : n < 10 ^ width) : paddedDigits width m < paddedDigits width n ↔ m < n := by
  have hlength := (length_paddedDigits hwidth hm).trans (length_paddedDigits hwidth hn).symm
  rw [(areDigits_paddedDigits width m).lt_iff (areDigits_paddedDigits width n) hlength,
    digitsValue_paddedDigits, digitsValue_paddedDigits]

/-! ### Rows -/

/-- The text of a row: each number in the width of its column, and then the character that ends
the column. -/
def rowText : List (Nat × Char) → List Nat → List Char
  | (width, stop) :: columns, n :: row => paddedDigits width n ++ stop :: rowText columns row
  | _, _ => []

/-- A row has a number for each column, none of them too long. -/
def Fits (columns : List (Nat × Char)) (row : List Nat) : Prop :=
  List.Forall₂ (fun column n => 0 < column.1 ∧ n < 10 ^ column.1) columns row

/-- Texts whose first parts are of one length are in the order of these parts, then in that of
what follows. -/
lemma append_lt_append_iff {front front' : List Char} (hlength : front.length = front'.length)
    (back back' : List Char) :
    front ++ back < front' ++ back' ↔ front < front' ∨ front = front' ∧ back < back' := by
  induction front generalizing front' with
  | nil =>
      obtain rfl := List.length_eq_zero_iff.mp hlength.symm
      simp
  | cons c front ih =>
      cases front' with
      | nil => simp at hlength
      | cons d front' =>
          rw [List.cons_append, List.cons_append, List.cons_lt_cons_iff,
            ih (Nat.succ.inj hlength), List.cons_lt_cons_iff, List.cons.injEq]
          simp only [and_or_left, and_assoc, or_assoc]

/-- **Rows that fit are in the order of their numbers.** -/
theorem Fits.rowText_lt_iff {columns : List (Nat × Char)} {row row' : List Nat}
    (h : Fits columns row) (h' : Fits columns row') :
    rowText columns row < rowText columns row' ↔ row < row' := by
  induction h generalizing row' with
  | nil =>
      cases h'
      simp [rowText]
  | @cons column m columns row hm hrow ih =>
      cases h' with
      | @cons _ n _ row' hn hrow' =>
          have hlength := (length_paddedDigits hm.1 hm.2).trans (length_paddedDigits hn.1 hn.2).symm
          rw [rowText, rowText, append_lt_append_iff hlength, paddedDigits_lt_iff hm.1 hm.2 hn.2,
            paddedDigits_inj, List.cons_lt_cons_iff, List.cons_lt_cons_iff, ih hrow']
          simp

end EventQuery
