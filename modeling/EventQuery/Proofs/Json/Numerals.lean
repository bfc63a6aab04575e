import EventQuery.Json.Printer
import EventQuery.Proofs.Json.Words

/-!
The words that numbers are written as.

Every number is written as a word of the grammar. The word of an integer has neither
a fraction nor an exponent, that of a double has one of them, so no double is ever
taken for an integer.

* `IsDoubleWord`: the forms of the words of doubles, without their sign;
  `Finite.exists_isDoubleWord_text`: doubles are written in these forms.
* `Number.exists_isSpelled_text`: a number is written as a word, integral exactly for integers.
* `Number.raw`: a number as it is written; `Number.isSpelled_raw`: its text spells it.
-/

namespace EventQuery

/-! ### The forms of the words of doubles -/

/-- The word of a double without its sign: there is a fraction, an exponent or both. -/
def IsDoubleWord (cs : List Char) : Prop :=
  ∀ negative, ∃ n : RawNumber, n.isIntegral = false ∧ n.IsSpelled (signText negative ++ cs)

namespace IsDoubleWord

variable {whole ds es : List Char} {e : Int}

lemma fraction (hwhole : IsWhole whole) (hds : AreDigits ds) (hne : ds ≠ []) :
    IsDoubleWord (whole ++ '.' :: ds) := by
  intro negative
  refine ⟨⟨negative, whole, ds, none⟩, by simp [RawNumber.isIntegral, hne], ?_⟩
  simpa using RawNumber.IsSpelled.parts (n := ⟨negative, whole, ds, none⟩) hwhole
    (.digits hds hne) .absent

lemma exponent (hwhole : IsWhole whole) (he : RawNumber.SpellsExponent (some e) es) :
    IsDoubleWord (whole ++ es) := by
  intro negative
  exact ⟨⟨negative, whole, [], some e⟩, by simp [RawNumber.isIntegral],
    .parts (n := ⟨negative, whole, [], some e⟩) hwhole .absent he⟩

lemma both (hwhole : IsWhole whole) (hds : AreDigits ds) (hne : ds ≠ [])
    (he : RawNumber.SpellsExponent (some e) es) :
    IsDoubleWord (whole ++ '.' :: (ds ++ es)) := by
  intro negative
  exact ⟨⟨negative, whole, ds, some e⟩, by simp [RawNumber.isIntegral],
    .parts (n := ⟨negative, whole, ds, some e⟩) hwhole (.digits hds hne) he⟩

end IsDoubleWord

/-! ### How doubles are written -/

namespace Finite

/-- A decimal that reads back as a double other than zero is not zero. -/
lemma digits_ne_zero_of_readsBack {x : Finite} (hx : x.isZero = false) {d : Decimal}
    (h : x.readsBack d = true) : d.digits ≠ 0 := by
  intro hd
  rw [readsBack, ofDecimal?, if_pos hd, beq_iff_eq, Option.some.injEq] at h
  rw [← h] at hx
  exact absurd hx (by simp [isZero, zero])

/-- A neighbour that was chosen reads back. -/
lemma readsBack_of_neighbour? {x : Finite} {exact d : Decimal} {dropped : Nat}
    (h : x.neighbour? exact dropped = some d) : x.readsBack d = true := by
  rw [neighbour?] at h
  split at h
  · split at h
    · cases h
      assumption
    · split at h
      · cases h
        assumption
      · split at h <;> cases h <;> assumption
  · cases h
    assumption
  · cases h
    assumption
  · cases h

lemma exactDecimal_digits_ne_zero {x : Finite} (hx : x.isZero = false) :
    x.exactDecimal.digits ≠ 0 := by
  have hsig : x.significand ≠ 0 := by simpa [isZero] using hx
  rw [exactDecimal]
  split
  · exact Nat.mul_ne_zero hsig (Nat.ne_of_gt (Nat.pow_pos (by decide)))
  · exact Nat.mul_ne_zero hsig (Nat.ne_of_gt (Nat.pow_pos (by decide)))

end Finite

/-- Zeros at the end are not all there is. -/
lemma Decimal.stripZeros_digits_ne_zero (steps : Nat) {d : Decimal} (h : d.digits ≠ 0) :
    (d.stripZeros steps).digits ≠ 0 := by
  induction steps generalizing d with
  | zero => exact h
  | succ steps ih =>
      rw [stripZeros]
      split
      · refine ih ?_
        show d.digits / 10 ≠ 0
        omega
      · exact h

/-- The fewest digits of a double other than zero are those of a positive number. -/
lemma Finite.shortest_digits_ne_zero {x : Finite} (hx : x.isZero = false) :
    x.shortest.digits ≠ 0 := by
  refine Decimal.stripZeros_digits_ne_zero _ ?_
  -- what was found reads back as a double other than zero; the exact decimal is not zero either
  cases h : (List.range (Decimal.width x.exactDecimal.digits - 1)).findSome? fun kept =>
      x.neighbour? x.exactDecimal (Decimal.width x.exactDecimal.digits - 1 - kept) with
  | none => exact exactDecimal_digits_ne_zero hx
  | some d =>
      obtain ⟨kept, -, hd⟩ := List.exists_of_findSome?_eq_some h
      exact digits_ne_zero_of_readsBack hx (readsBack_of_neighbour? hd)

/-- Digits with a point. -/
lemma isDoubleWord_pointed {c : Char} {cs : List Char} (h : AreDigits (c :: cs)) (hc : c ≠ '0')
    (whole : Int) : IsDoubleWord (pointed (c :: cs) whole) := by
  rw [pointed]
  split
  · exact .fraction .zero ((AreDigits.zeros _).append h) (by simp)
  · rename_i hpos
    -- the first digit stands before the point, so no zero is in front of it
    obtain ⟨n, hn⟩ : ∃ n, whole.toNat = n + 1 := ⟨whole.toNat - 1, by omega⟩
    have htake : AreDigits (c :: cs.take n) := by
      intro d hd
      rcases List.mem_cons.mp hd with rfl | hd
      · exact h d (by simp)
      · exact h d (List.mem_cons_of_mem _ (List.mem_of_mem_take hd))
    have hdrop : AreDigits (cs.drop n) :=
      fun d hd => h d (List.mem_cons_of_mem _ (List.mem_of_mem_drop hd))
    simp only [hn, List.take_succ_cons, List.drop_succ_cons]
    refine .fraction (.cons (htake.append (.zeros _)) hc) ?_ ?_
    · split
      · exact .zeros 1
      · exact hdrop
    · split
      · simp
      · assumption

/-- Digits with an exponent. -/
lemma isDoubleWord_scientific {c : Char} {cs : List Char} (h : AreDigits (c :: cs)) (hc : c ≠ '0')
    (order : Int) : IsDoubleWord (scientific (c :: cs) order) := by
  have hds := areDigits_decimalDigits order.natAbs
  have hne := decimalDigits_ne_nil order.natAbs
  obtain ⟨e, he⟩ : ∃ e, RawNumber.SpellsExponent (some e)
      ('e' :: (if order < 0 then '-' else '+') :: decimalDigits order.natAbs) := by
    split
    · exact ⟨_, .below (.inl rfl) hds hne⟩
    · exact ⟨_, .above (.inl rfl) (.inr rfl) hds hne⟩
  have hfirst : IsWhole [c] := .cons (fun d hd => h d (by simp_all)) hc
  cases cs with
  | nil => exact .exponent hfirst he
  | cons d cs => exact .both hfirst (fun d hd => h d (List.mem_cons_of_mem _ hd)) (by simp) he

/-- The digits of a double, without its sign, are a word of a double. -/
lemma Finite.exists_isDoubleWord_text (x : Finite) :
    ∃ cs, x.text.toList = signText x.negative ++ cs ∧ IsDoubleWord cs := by
  refine ⟨_, String.toList_ofList, ?_⟩
  cases hx : x.isZero with
  | true => exact .fraction .zero (.zeros 1) (by simp)
  | false =>
      have hne := shortest_digits_ne_zero hx
      have hhead := head?_decimalDigits_ne_zero hne
      have hdigits := areDigits_decimalDigits x.shortest.digits
      rw [if_neg (by simp), Decimal.layOut]
      cases h : decimalDigits x.shortest.digits with
      | nil => exact absurd h (decimalDigits_ne_nil _)
      | cons c cs =>
          rw [h] at hdigits hhead
          have hc : c ≠ '0' := fun hc => hhead (congrArg some hc)
          split
          · exact isDoubleWord_pointed hdigits hc _
          · exact isDoubleWord_scientific hdigits hc _

/-! ### Numbers as words -/

lemma integerText_toList (n : Int) :
    (integerText n).toList = signText (decide (n < 0)) ++ (decimalDigits n.natAbs ++ []) := by
  rw [integerText, String.toList_ofList, signText, List.append_nil]
  simp

/-- A number is written as a word: digits and nothing else for an integer, and for a
double no integer. -/
lemma Number.exists_isSpelled_text (n : Number) : ∃ r : RawNumber, r.IsSpelled n.text.toList ∧
    match n with
    | .integer i => r = ⟨decide (i < 0), decimalDigits i.natAbs, [], none⟩
    | .double _ => r.isIntegral = false := by
  cases n with
  | integer i =>
      refine ⟨_, ?_, rfl⟩
      rw [text, integerText_toList]
      exact .parts (n := ⟨decide (i < 0), _, [], none⟩) (.decimalDigits _) .absent .absent
  | double x =>
      obtain ⟨cs, htext, hcs⟩ := x.exists_isDoubleWord_text
      obtain ⟨r, hint, hr⟩ := hcs x.negative
      exact ⟨r, by rwa [text, htext], hint⟩

/-- A number as it is written. -/
def Number.raw (n : Number) : RawNumber :=
  (RawNumber.ofWord? n.text.toList).get (by
    obtain ⟨r, hr, -⟩ := n.exists_isSpelled_text
    rw [RawNumber.ofWord?_eq_some_iff.mpr hr]
    rfl)

namespace Number

lemma ofWord?_eq_raw (n : Number) : RawNumber.ofWord? n.text.toList = some n.raw :=
  (Option.some_get _).symm

lemma isSpelled_raw (n : Number) : n.raw.IsSpelled n.text.toList :=
  RawNumber.ofWord?_eq_some_iff.mp n.ofWord?_eq_raw

lemma eq_raw {n : Number} {r : RawNumber} (h : r.IsSpelled n.text.toList) : r = n.raw :=
  Option.some.inj ((RawNumber.ofWord?_eq_some_iff.mpr h).symm.trans n.ofWord?_eq_raw)

lemma raw_integer (i : Int) :
    (integer i).raw = ⟨decide (i < 0), decimalDigits i.natAbs, [], none⟩ := by
  obtain ⟨r, hr, rfl⟩ := (integer i).exists_isSpelled_text
  exact (eq_raw hr).symm

lemma isIntegral_raw_double (x : Finite) : (double x).raw.isIntegral = false := by
  obtain ⟨r, hr, hint⟩ := (double x).exists_isSpelled_text
  rwa [eq_raw hr] at hint

end Number

end EventQuery
