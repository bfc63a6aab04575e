import EventQuery.Json.Basic
import EventQuery.Proofs.Fields
import Mathlib.Data.List.Perm.Subperm

/-!
Equality of JSON objects, as equality of all look-ups.

The comparison of two objects goes through the members of the first one and
compares the numbers of members. For objects whose names are distinct that is
the same as giving equal answers to every look-up, whatever the order of the
members.

* `Json.equalOption`: equality of two look-ups.
* `Json.equal_object_iff`: equal objects are those with equal look-ups.
-/

namespace EventQuery

namespace Json

/-- Equality of two look-ups. -/
def equalOption : Option Json → Option Json → Bool
  | none, none => true
  | some v, some w => v.equal w
  | _, _ => false

@[simp] lemma equalOption_none : equalOption none none = true := rfl

@[simp] lemma equalOption_some (v w : Json) : equalOption (some v) (some w) = v.equal w := rfl

@[simp] lemma equalOption_none_some (w : Json) : equalOption none (some w) = false := rfl

@[simp] lemma equalOption_some_none (v : Json) : equalOption (some v) none = false := rfl

lemma equalOption_eq_true {o o' : Option Json} (h : equalOption o o' = true) :
    o = none ↔ o' = none := by
  cases o <;> cases o' <;> simp_all

lemma equalMembers_cons (k : String) (v : Json) (ms ns : Object) :
    equalMembers ((k, v) :: ms) ns
      = (equalOption (some v) (Fields.find? k ns) && equalMembers ms ns) := by
  rw [equalMembers]
  cases Fields.find? k ns <;> rfl

/-- The members of one object are in another if each look-up that finds something
finds an equal value there. -/
lemma equalMembers_iff {ms ns : Object} (hms : Fields.Distinct ms) :
    equalMembers ms ns = true ↔
      ∀ key ∈ Fields.names ms, equalOption (Fields.find? key ms) (Fields.find? key ns) = true := by
  induction ms with
  | nil => simp [equalMembers, Fields.names]
  | cons e ms ih =>
      obtain ⟨k, v⟩ := e
      obtain ⟨hk, hms'⟩ := List.nodup_cons.mp hms
      have htail : ∀ key ∈ Fields.names ms,
          Fields.find? key ((k, v) :: ms) = Fields.find? key ms := by
        intro key hkey
        rw [Fields.find?, if_neg]
        rintro rfl
        exact hk hkey
      rw [equalMembers_cons, Bool.and_eq_true, ih hms', Fields.names_cons, List.forall_mem_cons]
      refine and_congr (by rw [Fields.find?, if_pos rfl]) ?_
      exact forall₂_congr fun key hkey => by rw [htail key hkey]

/-- **Equality of objects** whose names are distinct: all look-ups agree. -/
theorem equal_object_iff {ms ns : Object} (hms : Fields.Distinct ms) (hns : Fields.Distinct ns) :
    (object ms).equal (object ns) = true ↔
      ∀ key, equalOption (Fields.find? key ms) (Fields.find? key ns) = true := by
  rw [equal, Bool.and_eq_true, beq_iff_eq, equalMembers_iff hms]
  constructor
  · rintro ⟨hlen, hall⟩ key
    by_cases hkey : key ∈ Fields.names ms
    · exact hall key hkey
    · -- as many names, all of the first among the second: no other name is left
      have hsub : Fields.names ms ⊆ Fields.names ns := by
        intro k hk
        by_contra hk'
        have h := equalOption_eq_true (hall k hk)
        exact Fields.find?_eq_none_iff.mp (h.mpr (Fields.find?_eq_none_iff.mpr hk')) hk
      have hperm : (Fields.names ms).Perm (Fields.names ns) :=
        (List.subperm_of_subset hms hsub).perm_of_length_le (by simp [Fields.names, hlen])
      have hkey' : key ∉ Fields.names ns := fun h => hkey (hperm.mem_iff.mpr h)
      rw [Fields.find?_eq_none_iff.mpr hkey, Fields.find?_eq_none_iff.mpr hkey']
      rfl
  · intro hall
    refine ⟨?_, fun key _ => hall key⟩
    have hmn : Fields.names ms ⊆ Fields.names ns :=
      Fields.names_subset fun key h => (equalOption_eq_true (hall key)).mpr h
    have hnm : Fields.names ns ⊆ Fields.names ms :=
      Fields.names_subset fun key h => (equalOption_eq_true (hall key)).mp h
    have hperm : (Fields.names ms).Perm (Fields.names ns) :=
      (List.subperm_of_subset hms hmn).antisymm (List.subperm_of_subset hns hnm)
    simpa [Fields.names] using hperm.length_eq

end Json

end EventQuery
