import EventQuery.Proofs.Fields
import EventQuery.Proofs.Json.Rendering

/-!
Values are read back from their text.

A plain value is read back from its text as it is: with its members in order, with
its integers as integers and its doubles as doubles. The only thing that is asked of
the reader is that it gives each double in the value back from the word that the
double is written as.

* `RawString.text?_ofString`: strings are read back.
* `Json.IsReadBackBy`: a way of reading doubles gives the doubles in a value back.
* `Json.valueBy?_document`: the document of a plain value has that value.
* `Json.parse?_text`: so has its text, for the reader with a limit on nesting.
-/

namespace EventQuery

/-! ### Strings -/

namespace RawString

/-- A code unit that is no half of a pair is a character. -/
lemma decode?_unit {u : Nat} (hu : u < 0xD800) (rest : RawString) :
    decode? (.unit u :: rest) = (decode? rest).map (Char.ofNat u :: ·) := by
  have hhigh : isHighSurrogate u = false := by simp [isHighSurrogate]; omega
  have hlow : isLowSurrogate u = false := by simp [isLowSurrogate]; omega
  cases rest with
  | nil => simp [decode?, hhigh, hlow]
  | cons p rest => cases p <;> simp [decode?, hhigh, hlow]

/-- A string is read back. -/
lemma text?_ofString (s : String) : (ofString s).text? = some s := by
  have hdecode : ∀ cs : List Char, decode? (cs.map StringPiece.ofChar) = some cs := by
    intro cs
    induction cs with
    | nil => rfl
    | cons c cs ih =>
        have hchar : decode? (.char c :: cs.map StringPiece.ofChar) = some (c :: cs) := by
          rw [decode?, ih]
          rfl
        rw [List.map_cons, StringPiece.ofChar]
        split
        · exact hchar
        · split
          · -- a control character is far below the halves of pairs
            rw [decode?_unit (by omega), ih, Char.ofNat_toNat]
            rfl
          · exact hchar
  rw [RawString.text?, ofString, hdecode, Option.map_some, String.ofList_toList]

end RawString

/-! ### Numbers -/

/-- An integer of 64 bits is read as an integer. -/
lemma Number.valueBy?_raw_integer {i : Int} (h : fitsInt64 i = true)
    (double? : RawNumber → Option Finite) :
    (integer i).raw.valueBy? double? = some (integer i) := by
  have hvalue : RawNumber.wholeValue ⟨decide (i < 0), decimalDigits i.natAbs, [], none⟩ = i := by
    rw [RawNumber.wholeValue, digitsValue_decimalDigits]
    by_cases hi : i < 0
    · rw [if_pos (decide_eq_true hi)]
      omega
    · rw [if_neg (by simpa using hi)]
      omega
  have hinteger : RawNumber.isInteger ⟨decide (i < 0), decimalDigits i.natAbs, [], none⟩ = true := by
    simp only [fitsInt64, decide_eq_true_eq] at h
    rw [RawNumber.isInteger, hvalue, Bool.and_eq_true, Bool.and_eq_true, decide_eq_true_eq]
    refine ⟨⟨rfl, ?_⟩, by omega⟩
    simp only [Bool.not_eq_true', Bool.and_eq_false_iff, decide_eq_false_iff_not,
      beq_eq_false_iff_ne]
    omega
  rw [raw_integer, RawNumber.valueBy?, if_pos hinteger, hvalue]

/-- A double is not read as an integer. -/
lemma Number.valueBy?_raw_double (x : Finite) (double? : RawNumber → Option Finite) :
    (double x).raw.valueBy? double? = (double? (double x).raw).map .double := by
  have hinteger : (double x).raw.isInteger = false := by
    rw [RawNumber.isInteger, isIntegral_raw_double]
    rfl
  rw [RawNumber.valueBy?, hinteger]
  rfl

/-! ### Values -/

namespace Json

/-- A way of reading doubles gives every double in a value back from the word that it
is written as. -/
def IsReadBackBy (double? : RawNumber → Option Finite) (v : Json) : Prop :=
  ∀ x, double x ∈ v.subvalues → (RawNumber.ofWord? x.text.toList).bind double? = some x

variable {double? : RawNumber → Option Finite}

lemma isReadBackBy_array {vs : List Json} :
    (array vs).IsReadBackBy double? ↔ ∀ v ∈ vs, v.IsReadBackBy double? := by
  simp only [IsReadBackBy, subvalues_array, List.mem_cons, List.mem_flatMap,
    double, reduceCtorEq, false_or]
  constructor
  · exact fun h v hv x hx => h x ⟨v, hv, hx⟩
  · rintro h x ⟨v, hv, hx⟩
    exact h v hv x hx

lemma isReadBackBy_object {ms : Object} :
    (object ms).IsReadBackBy double? ↔ ∀ m ∈ ms, m.2.IsReadBackBy double? := by
  simp only [IsReadBackBy, subvalues_object, List.mem_cons, List.mem_flatMap,
    double, reduceCtorEq, false_or]
  constructor
  · exact fun h m hm x hx => h x ⟨m, hm, hx⟩
  · rintro h x ⟨m, hm, hx⟩
    exact h m hm x hx

/-- **The document of a plain value** has that value, if the doubles in it are read
back. -/
theorem valueBy?_document {v : Json} (hplain : v.AllPlain) (hback : v.IsReadBackBy double?) :
    v.document.valueBy? double? = some v := by
  induction v using Json.ind with
  | null => rfl
  | bool b => rfl
  | number n =>
      rw [document, Document.valueBy?]
      cases n with
      | integer i =>
          have hfits : fitsInt64 i = true := hplain _ (mem_subvalues_self _)
          rw [Number.valueBy?_raw_integer hfits]
          rfl
      | double x =>
          have hx := hback x (mem_subvalues_self _)
          rw [show x.text = (Number.double x).text from rfl, Number.ofWord?_eq_raw] at hx
          rw [Number.valueBy?_raw_double, show double? (Number.double x).raw = some x from hx]
          rfl
  | string s => rw [document, Document.valueBy?, RawString.text?_ofString]; rfl
  | array vs ih =>
      rw [allPlain_array] at hplain
      rw [isReadBackBy_array] at hback
      have hitems : Document.itemValuesBy? double? (itemDocuments vs) = some vs := by
        induction vs with
        | nil => rfl
        | cons v vs ihvs =>
            obtain ⟨hv, hvs⟩ := List.forall_mem_cons.mp ih
            obtain ⟨hpv, hpvs⟩ := List.forall_mem_cons.mp hplain
            obtain ⟨hbv, hbvs⟩ := List.forall_mem_cons.mp hback
            rw [itemDocuments, Document.itemValuesBy?, hv hpv hbv, ihvs hvs hpvs hbvs]
            rfl
      rw [document, Document.valueBy?, hitems]
      rfl
  | object ms ih =>
      rw [allPlain_object] at hplain
      rw [isReadBackBy_object] at hback
      obtain ⟨hdistinct, hplain⟩ := hplain
      have hmembers : Document.memberValuesBy? double? (memberDocuments ms) = some ms := by
        clear hdistinct
        induction ms with
        | nil => rfl
        | cons m ms ihms =>
            obtain ⟨key, v⟩ := m
            obtain ⟨hv, hms⟩ := List.forall_mem_cons.mp ih
            obtain ⟨hpv, hpms⟩ := List.forall_mem_cons.mp hplain
            obtain ⟨hbv, hbms⟩ := List.forall_mem_cons.mp hback
            have hvalue : v.document.valueBy? double? = some v := hv hpv hbv
            rw [memberDocuments, Document.memberValuesBy?, RawString.text?_ofString, hvalue,
              ihms hms hbms hpms]
            rfl
      rw [document, Document.valueBy?, hmembers, Option.map_some,
        Fields.ofList_of_distinct hdistinct]

/-- The reader with a limit on nesting gives the value of the document, too, if there are
levels for all that is nested. -/
lemma value?_document {v : Json} (hplain : v.AllPlain) (hback : v.IsReadBackBy RawNumber.scaled?)
    {levels : Nat} (hlevels : v.document.nesting ≤ levels) :
    v.document.value? levels = some v := by
  rw [Document.value?_eq_valueBy? _ _ hlevels, valueBy?_document hplain hback]

/-- **The text of a plain value** has that value, unless it is nested beyond the limit or
the doubles in it are not read back. -/
theorem parse?_text {v : Json} (hplain : v.AllPlain) (hback : v.IsReadBackBy RawNumber.scaled?)
    (hnesting : v.document.nesting ≤ Document.maxNesting) (indent : Nat) :
    parse? (text indent v) = some v := by
  rw [parse?, read?_text, Option.bind_some, value?_document hplain hback hnesting]

end Json

end EventQuery
