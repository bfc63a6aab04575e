import EventQuery.Proofs.Json.RoundTrip

/-!
Objects read as records.

A record reader that is given an object as it is written looks its members up by name: names
are read back, and with distinct names no member is there twice.

* `Document.only?_of_distinct`: with distinct names, a reader finds what a look-up does.
* `Json.members?_document`, `Json.onlyNames_document`: the members of a written object, and
  whether it has others.
-/

namespace EventQuery

namespace Document

/-- With distinct names, a reader finds what a look-up does. -/
lemma only?_of_distinct {members : Fields Document} (h : Fields.Distinct members)
    (key : String) : only? members key = some (Fields.find? key members) := by
  rw [only?, Fields.filter_eq h]
  cases Fields.find? key members <;> rfl

end Document

namespace Json

/-- The names of a written object are read back. -/
lemma named?_memberDocuments (ms : Object) :
    Document.named? (memberDocuments ms) = some (ms.map fun m => (m.1, m.2.document)) := by
  induction ms with
  | nil => rfl
  | cons m ms ih =>
      rw [memberDocuments, Document.named?, RawString.text?_ofString, ih]
      rfl

/-- **A written object as a record** has the members that look-ups find. -/
theorem members?_document {ms : Object} (hms : Fields.Distinct ms) (names : List String) :
    (object ms).document.members? names
      = some (names.map fun key => (Fields.find? key ms).map document) := by
  have hdistinct : Fields.Distinct (ms.map fun m => (m.1, m.2.document)) := by
    rwa [Fields.Distinct, Fields.names_map]
  have honly : Document.only? (ms.map fun m => (m.1, m.2.document))
      = fun key => some ((Fields.find? key ms).map document) := by
    funext key
    rw [Document.only?_of_distinct hdistinct, Fields.find?_map]
  rw [document, Document.members?, named?_memberDocuments, Option.bind_some, honly]
  exact List.mapM_pure

/-- A written object has no names but its own. -/
lemma onlyNames_document {ms : Object} {names : List String} (h : Fields.names ms ⊆ names) :
    (object ms).document.onlyNames names = true := by
  rw [document, Document.onlyNames, named?_memberDocuments]
  simp only [List.all_map, List.all_eq_true, Function.comp_apply, List.contains_iff_mem]
  exact fun m hm => h (List.mem_map_of_mem hm)

end Json

end EventQuery
