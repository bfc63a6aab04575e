import EventQuery.Scalar
import Mathlib.Tactic.Lemma

/-!
The values inside a JSON value.

* `Json.ind`: a property of all values is shown from parts to wholes.
* `Json.subvalues`: a value and all values in it, in the order of the text.
* `Json.HasDistinctNames`, `Json.HasWordIntegers`: no name is repeated, and integers fit 64 bits.
* `Json.AllPlain`: values without `null`, without integers of more than 64 bits and
  without repeated names.
-/

namespace EventQuery

namespace Json

/-- A property of all values is shown from parts to wholes. -/
@[elab_as_elim]
theorem ind {P : Json → Prop} (null : P .null) (bool : ∀ b, P (.bool b))
    (number : ∀ n, P (.number n)) (string : ∀ s, P (.string s))
    (array : ∀ vs : List Json, (∀ v ∈ vs, P v) → P (.array vs))
    (object : ∀ ms : List (String × Json), (∀ m ∈ ms, P m.2) → P (.object ms)) (v : Json) : P v :=
  @Json.rec P (fun vs => ∀ v ∈ vs, P v) (fun ms => ∀ m ∈ ms, P m.2) (fun m => P m.2)
    null bool number string array object
    (List.forall_mem_nil P)
    (fun _ _ ihv ihvs => List.forall_mem_cons.mpr ⟨ihv, ihvs⟩)
    (List.forall_mem_nil fun m : String × Json => P m.2)
    (fun _ _ ihm ihms => List.forall_mem_cons.mpr ⟨ihm, ihms⟩)
    (fun _ _ ih => ih)
    v

mutual

/-- A value and all values in it, each before those inside it. -/
def subvalues : Json → List Json
  | array vs => array vs :: itemSubvalues vs
  | object ms => object ms :: memberSubvalues ms
  | v => [v]

/-- The values in the items of an array. -/
def itemSubvalues : List Json → List Json
  | [] => []
  | v :: vs => v.subvalues ++ itemSubvalues vs

/-- The values in the members of an object. -/
def memberSubvalues : List (String × Json) → List Json
  | [] => []
  | (_, v) :: ms => v.subvalues ++ memberSubvalues ms

end

lemma itemSubvalues_eq_flatMap (vs : List Json) : itemSubvalues vs = vs.flatMap subvalues := by
  induction vs with
  | nil => rfl
  | cons v vs ih =>
      show v.subvalues ++ itemSubvalues vs = _
      rw [ih, List.flatMap_cons]

lemma memberSubvalues_eq_flatMap (ms : List (String × Json)) :
    memberSubvalues ms = ms.flatMap fun m => m.2.subvalues := by
  induction ms with
  | nil => rfl
  | cons m ms ih =>
      show m.2.subvalues ++ memberSubvalues ms = _
      rw [ih, List.flatMap_cons]

lemma subvalues_array (vs : List Json) :
    (array vs).subvalues = array vs :: vs.flatMap subvalues :=
  congrArg (array vs :: ·) (itemSubvalues_eq_flatMap vs)

lemma subvalues_object (ms : List (String × Json)) :
    (object ms).subvalues = object ms :: ms.flatMap fun m => m.2.subvalues :=
  congrArg (object ms :: ·) (memberSubvalues_eq_flatMap ms)

/-- A value is among the values in it. -/
lemma mem_subvalues_self (v : Json) : v ∈ v.subvalues := by
  cases v <;> exact List.mem_cons_self

/-- What holds of all values in an array holds of it and of all values in its items. -/
lemma forall_subvalues_array {P : Json → Prop} {vs : List Json} :
    (∀ w ∈ (array vs).subvalues, P w) ↔ P (array vs) ∧ ∀ v ∈ vs, ∀ w ∈ v.subvalues, P w := by
  rw [subvalues_array, List.forall_mem_cons, List.forall_mem_flatMap]

/-- What holds of all values in an object holds of it and of all values in its members. -/
lemma forall_subvalues_object {P : Json → Prop} {ms : Object} :
    (∀ w ∈ (object ms).subvalues, P w) ↔ P (object ms) ∧ ∀ m ∈ ms, ∀ w ∈ m.2.subvalues, P w := by
  rw [subvalues_object, List.forall_mem_cons, List.forall_mem_flatMap]

/-! ### Names and integers -/

/-- No name occurs twice in an object inside a JSON value. -/
def HasDistinctNames (v : Json) : Prop := ∀ ms, object ms ∈ v.subvalues → Fields.Distinct ms

/-- The integers in a JSON value fit 64 bits, with a sign or without. -/
def HasWordIntegers (v : Json) : Prop :=
  ∀ n, number (.integer n) ∈ v.subvalues → -9223372036854775808 ≤ n ∧ n < 18446744073709551616

lemma hasDistinctNames_object {ms : Object} :
    (object ms).HasDistinctNames ↔ Fields.Distinct ms ∧ ∀ m ∈ ms, m.2.HasDistinctNames := by
  have hall : ∀ v : Json, v.HasDistinctNames ↔
      ∀ w ∈ v.subvalues, ∀ ns, w = object ns → Fields.Distinct ns :=
    fun v => ⟨fun h w hw ns hns => h ns (hns ▸ hw), fun h ns hns => h _ hns ns rfl⟩
  simp only [hall, forall_subvalues_object, object.injEq, forall_eq']

end Json

/-! ### Plain values -/

/-- A value that is no `null`, nor an integer of more than 64 bits, nor an object with
a repeated name. -/
def Json.IsPlain : Json → Prop
  | .null => False
  | .number (.integer n) => fitsInt64 n = true
  | .object ms => Fields.Distinct ms
  | _ => True

/-- All values in a value are plain. -/
def Json.AllPlain (v : Json) : Prop := ∀ w ∈ v.subvalues, w.IsPlain

namespace Json

lemma allPlain_array {vs : List Json} : (array vs).AllPlain ↔ ∀ v ∈ vs, v.AllPlain :=
  forall_subvalues_array.trans (and_iff_right trivial)

lemma allPlain_object {ms : Object} :
    (object ms).AllPlain ↔ Fields.Distinct ms ∧ ∀ m ∈ ms, m.2.AllPlain :=
  forall_subvalues_object

/-- A plain value with no other value in it. -/
lemma IsPlain.allPlain {v : Json} (h : v.IsPlain) (hleaf : v.subvalues = [v]) : v.AllPlain := by
  rw [AllPlain, hleaf, List.forall_mem_singleton]
  exact h

lemma allPlain_bool (b : Bool) : (bool b).AllPlain := IsPlain.allPlain trivial rfl

lemma allPlain_string (s : String) : (string s).AllPlain := IsPlain.allPlain trivial rfl

lemma allPlain_strings (ss : List String) : (strings ss).AllPlain := by
  simp [strings, allPlain_array, allPlain_string]

lemma allPlain_integer {n : Int} (h : fitsInt64 n = true) : (integer n).AllPlain :=
  IsPlain.allPlain h rfl

lemma allPlain_double (x : Finite) : (double x).AllPlain := IsPlain.allPlain trivial rfl

end Json

end EventQuery
