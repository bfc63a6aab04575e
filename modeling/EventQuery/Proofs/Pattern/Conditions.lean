import EventQuery.Proofs.Pattern.Grammar
import EventQuery.Proofs.Pattern.Pieces

/-!
The conditions in a written pattern.

A pattern is written with its conditions in order, each as one object with a path;
no other object has one. The object of a condition shows whether it is bound.

* `Json.conditionObjects`: the objects of conditions in a value.
* `Condition.ShowsBinding`: the path of a condition and its mark.
* `showsBinding_of_encode`: the conditions of a pattern are written one by one.
-/

namespace EventQuery

/-! ### Conditions in a written query -/

/-- The object of a condition, if the value is one. -/
def Json.conditionObject? : Json → Option Object
  | .object o => if isConditionObject o then some o else none
  | _ => none

/-- The objects of conditions in a value, in the order of the text. -/
def Json.conditionObjects (v : Json) : List Object := v.subvalues.filterMap conditionObject?

namespace Json

lemma conditionObjects_array (vs : List Json) :
    (array vs).conditionObjects = vs.flatMap conditionObjects := by
  rw [conditionObjects, subvalues_array, List.filterMap_cons_none rfl, List.filterMap_flatMap]
  rfl

lemma conditionObjects_object (ms : Object) :
    (object ms).conditionObjects = (if isConditionObject ms then [ms] else []) ++
      ms.flatMap fun m => m.2.conditionObjects := by
  rw [conditionObjects, subvalues_object, List.filterMap_cons, List.filterMap_flatMap]
  cases h : isConditionObject ms <;> simp [conditionObject?, h, conditionObjects]

lemma conditionObjects_string (s : String) : (string s).conditionObjects = [] := rfl

lemma conditionObjects_strings (ss : List String) : (strings ss).conditionObjects = [] := by
  rw [strings, conditionObjects_array, List.flatMap_map]
  simp [conditionObjects_string]

/-- An object without a path whose members have no conditions in them has none
in it. -/
lemma conditionObjects_object_eq_nil {ms : Object} (hpath : Fields.find? "path" ms = none)
    (hms : ∀ m ∈ ms, m.2.conditionObjects = []) : (object ms).conditionObjects = [] := by
  rw [conditionObjects_object, isConditionObject, hpath, List.flatMap_eq_nil_iff.mpr hms]
  rfl

end Json

lemma IsNumber.conditionObjects {v : Json} (h : IsNumber v) : v.conditionObjects = [] := by
  cases h <;> rfl

lemma IsOperandObject.conditionObjects {o : Object} (h : IsOperandObject o) :
    (Json.object o).conditionObjects = [] := by
  have htyped : ∀ type {v : Json}, v.conditionObjects = [] →
      (Json.object (typedObject type v)).conditionObjects = [] := by
    intro type v hv
    refine Json.conditionObjects_object_eq_nil rfl ?_
    simp [typedObject, Json.conditionObjects_string, hv]
  cases h with
  | double hv => exact htyped _ hv.conditionObjects
  | int _ => exact htyped _ rfl
  | bool _ => exact htyped _ rfl
  | string _ => exact htyped _ rfl

lemma IsDeltaObject.conditionObjects {o : Object} (h : IsDeltaObject o) :
    (Json.object o).conditionObjects = [] := by
  refine Json.conditionObjects_object_eq_nil ?_ fun m hm => (h.members m hm).2.conditionObjects
  rw [Fields.find?_eq_none_iff]
  intro hpath
  obtain ⟨m, hm, hname⟩ := List.mem_map.mp hpath
  obtain ⟨⟨u, hu⟩, -⟩ := h.members m hm
  have hne : u.name ≠ "path" := by cases u <;> decide
  exact hne (hu.symm.trans hname)

lemma IsBoundsObject.conditionObjects {o : Object} (h : IsBoundsObject o) :
    (Json.object o).conditionObjects = [] := by
  refine Json.conditionObjects_object_eq_nil ?_ fun m hm => ?_
  · rw [Fields.find?_eq_none_iff]
    intro hpath
    obtain ⟨m, hm, hname⟩ := List.mem_map.mp hpath
    rcases (h.members m hm).1 with hm | hm <;> simp [hm] at hname
  · obtain ⟨-, d, hd, hdelta⟩ := h.members m hm
    rw [hd, hdelta.conditionObjects]

lemma IsTimingMembers.conditionObjects {t : Object} (h : IsTimingMembers t) :
    (t.flatMap fun m => m.2.conditionObjects) = [] := by
  refine List.flatMap_eq_nil_iff.mpr fun m hm => ?_
  have hmember := h.members m hm
  cases hmember with
  | after hd => exact hd.conditionObjects
  | within hd => exact hd.conditionObjects
  | width hb => exact hb.conditionObjects

/-- Wrappers add no member under a name of a core. -/
lemma IsTimingMembers.find?_eq_none {t : Object} (h : IsTimingMembers t) {key : String}
    (hkey : key ∉ timingNames) : Fields.find? key t = none := by
  rw [Fields.find?_eq_none_iff]
  intro hmem
  obtain ⟨m, hm, rfl⟩ := List.mem_map.mp hmem
  exact hkey (h.members m hm).name_mem

/-! ### Conditions are written one by one -/

/-- The object of a condition has its path, and the mark of a span exactly if it is
bound. -/
structure Condition.ShowsBinding (c : Condition) (o : Object) : Prop where
  path : Fields.find? "path" o = some (.strings c.path)
  type : Fields.find? "type" o = c.stream?.map fun _ => .string "span"

/-- Lists of patterns whose conditions are written one by one. -/
lemma showsBinding_flatMap {inSwitch : Bool} {ps : List Pattern} {os : List Object}
    (h : List.Forall₂ (fun p o => List.Forall₂ Condition.ShowsBinding
      (p.writtenConditions inSwitch) (Json.object o).conditionObjects) ps os) :
    List.Forall₂ Condition.ShowsBinding (ps.flatMap (Pattern.writtenConditions inSwitch))
      ((os.map Json.object).flatMap Json.conditionObjects) := by
  rw [List.flatMap_map]
  exact List.rel_flatMap h fun _ _ hpo => hpo

lemma conditionObjects_comparisonObject {path : List String} {op : Operator} {arg : Object}
    (harg : IsOperandObject arg) (rest : Object) {t : Object} (ht : IsTimingMembers t) :
    (Json.object (comparisonObject path op (.object arg) ++ rest ++ t)).conditionObjects
      = (comparisonObject path op (.object arg) ++ rest ++ t) ::
        rest.flatMap fun m => m.2.conditionObjects := by
  have hcond : isConditionObject (comparisonObject path op (.object arg) ++ rest ++ t) = true := by
    simp [isConditionObject, comparisonObject, Fields.find?]
  rw [Json.conditionObjects_object, if_pos hcond, List.flatMap_append, List.flatMap_append,
    ht.conditionObjects]
  simp [comparisonObject, Json.conditionObjects_strings, Json.conditionObjects_string,
    harg.conditionObjects]

lemma conditionObjects_booleanObject (op : String) (l r : Object) {t : Object}
    (ht : IsTimingMembers t) : (Json.object (booleanObject op l r ++ t)).conditionObjects
      = (Json.object l).conditionObjects ++ (Json.object r).conditionObjects := by
  have hcond : isConditionObject (booleanObject op l r ++ t) = false := by
    simp [isConditionObject, booleanObject, Fields.find?, ht.find?_eq_none, timingNames]
  rw [Json.conditionObjects_object, hcond, List.flatMap_append, ht.conditionObjects]
  simp [booleanObject, Json.conditionObjects_string, Json.conditionObjects_array]

lemma conditionObjects_partsObject (type : String) (vs : List Json) {t : Object}
    (ht : IsTimingMembers t) : (Json.object (partsObject type vs ++ t)).conditionObjects
      = vs.flatMap Json.conditionObjects := by
  have hcond : isConditionObject (partsObject type vs ++ t) = false := by
    simp [isConditionObject, partsObject, Fields.find?, ht.find?_eq_none, timingNames]
  rw [Json.conditionObjects_object, hcond, List.flatMap_append, ht.conditionObjects]
  simp [partsObject, Json.conditionObjects_string, Json.conditionObjects_array]

lemma conditionObjects_switchObject (stream : String) (vs : List Json) {t : Object}
    (ht : IsTimingMembers t) : (Json.object (switchObject stream vs ++ t)).conditionObjects
      = vs.flatMap Json.conditionObjects := by
  have hcond : isConditionObject (switchObject stream vs ++ t) = false := by
    simp [isConditionObject, switchObject, Fields.find?, ht.find?_eq_none, timingNames]
  have hname : (Json.object [("name", .string stream)]).conditionObjects = [] :=
    Json.conditionObjects_object_eq_nil rfl (by simp [Json.conditionObjects_string])
  rw [Json.conditionObjects_object, hcond, List.flatMap_append, ht.conditionObjects]
  simp [switchObject, Json.conditionObjects_string, Json.conditionObjects_array, hname]

/-- **The conditions of a pattern are written one by one**, each with its path and
with the mark of a span exactly if it is bound. -/
theorem showsBinding_of_encode {policy : NumberPolicy} :
    (∀ b p o, Pattern.encode ⟨policy, b⟩ p = .ok o → List.Forall₂ Condition.ShowsBinding
      (p.writtenConditions b) (Json.object o).conditionObjects) ∧
    ∀ b s o, Stream.encode ⟨policy, b⟩ s = .ok o → List.Forall₂ Condition.ShowsBinding
      s.writtenConditions (Json.object o).conditionObjects := by
  refine encode_induction (R := fun b p o => List.Forall₂ Condition.ShowsBinding
      (p.writtenConditions b) (Json.object o).conditionObjects)
    (S := fun s o => List.Forall₂ Condition.ShowsBinding s.writtenConditions
      (Json.object o).conditionObjects) ?_ ?_ ?_ ?_ ?_ ?_ ?_ ?_ ?_ ?_ ?_
  · intro b p o h
    rwa [Pattern.writtenConditions_core] at h
  · intro b path op x arg t hx ht
    obtain ⟨v, rfl, hv⟩ := isOperandObject_of_encode hx
    rw [Pattern.writtenConditions_unbound, ← List.append_nil (comparisonObject path op _),
      conditionObjects_comparisonObject hv [] ht]
    refine .cons ⟨?_, ?_⟩ .nil
    · simp [comparisonObject, Fields.find?, Condition.path]
    · simp [comparisonObject, Fields.find?, Condition.stream?, ht.find?_eq_none, timingNames]
  · intro path op x s arg t hx ht
    obtain ⟨v, rfl, hv⟩ := isOperandObject_of_encode hx
    rw [Pattern.writtenConditions_bound, conditionObjects_comparisonObject hv _ ht]
    refine .cons ⟨?_, ?_⟩ (by simp [spanMember, Json.conditionObjects_string])
    · simp [comparisonObject, Fields.find?, Condition.path]
    · simp [comparisonObject, Fields.find?, Condition.stream?, spanMember]
  · intro path op x s arg u t hx hu ht
    obtain ⟨v, rfl, hv⟩ := isOperandObject_of_encode hx
    rw [Pattern.writtenConditions_bound, conditionObjects_comparisonObject hv _ ht]
    refine .cons ⟨?_, ?_⟩ ?_
    · simp [comparisonObject, Fields.find?, Condition.path]
    · simp [comparisonObject, Fields.find?, Condition.stream?, spanMember]
    · simpa [spanMember, Json.conditionObjects_string] using hu
  · intro b l r o u t hl hr ht
    rw [Pattern.writtenConditions_and, conditionObjects_booleanObject _ _ _ ht]
    exact List.rel_append hl hr
  · intro b l r o u t hl hr ht
    rw [Pattern.writtenConditions_or, conditionObjects_booleanObject _ _ _ ht]
    exact List.rel_append hl hr
  · intro b ps os t hos ht
    rw [Pattern.writtenConditions_serial, conditionObjects_partsObject _ _ ht]
    exact showsBinding_flatMap hos
  · intro b kind ps os t hos ht
    rw [Pattern.writtenConditions_parallel, conditionObjects_partsObject _ _ ht]
    exact showsBinding_flatMap hos
  · intro b s ps os t hos ht
    rw [Pattern.writtenConditions_switch, conditionObjects_switchObject _ _ ht]
    exact showsBinding_flatMap hos
  · intro name
    have hnone : (Json.object [("name", .string name)]).conditionObjects = [] :=
      Json.conditionObjects_object_eq_nil rfl (by simp [Json.conditionObjects_string])
    rw [Stream.writtenConditions_unfiltered, hnone]
    exact .nil
  · intro name f o ho
    rw [Stream.writtenConditions_filtered, Json.conditionObjects_object]
    simpa [isConditionObject, Fields.find?, Json.conditionObjects_string] using ho

end EventQuery
