import EventQuery.Fields
import Mathlib.Data.List.Nodup
import Mathlib.Tactic.Lemma

/-!
Look-ups in mappings, and mappings with distinct names.

* `Fields.find?_eq_none_iff`, `Fields.find?_append`, `Fields.find?_map`: look-ups and names.
* `Fields.find?_of_mem`, `Fields.mem_of_find?`, `Fields.erase_eq_filter`, `Fields.filter_eq`:
  with distinct names every entry is found, what is found is an entry, there is one at most to
  remove, and it is the only one under its name.
* `Fields.perm_cons_erase`, `Fields.find?_erase_of_ne`: what is found and what is left when it is
  removed.
* `Fields.distinct_ofList`: names that are set one after the other are distinct;
  `Fields.ofList_of_distinct`: if they are distinct, they stay as they are.
* `Fields.insert_append`: a name that is not in front is set in what follows.
-/

namespace EventQuery

namespace Fields

variable {α : Type}

lemma names_cons (e : String × α) (fs : Fields α) : names (e :: fs) = e.1 :: names fs := rfl

lemma erase_cons (key : String) (e : String × α) (fs : Fields α) :
    erase key (e :: fs) = if e.1 = key then fs else e :: erase key fs := rfl

/-- A look-up finds nothing if the name is not there. -/
lemma find?_eq_none_iff {key : String} {fs : Fields α} : find? key fs = none ↔ key ∉ names fs := by
  induction fs with
  | nil => simp [find?, names]
  | cons e fs ih =>
      obtain ⟨k, v⟩ := e
      by_cases hk : k = key
      · simp [find?, names, hk]
      · have hk' : ¬ key = k := fun h => hk h.symm
        rw [find?, if_neg hk, ih]
        simp [names, hk']

/-- A look-up in two lists of entries goes to the first one first. -/
lemma find?_append (key : String) (fs gs : Fields α) :
    find? key (fs ++ gs) = (find? key fs).or (find? key gs) := by
  induction fs with
  | nil => simp [find?]
  | cons e fs ih =>
      by_cases hk : e.1 = key
      · simp [find?, hk]
      · simp [find?, hk, ih]

lemma names_map {β : Type} (f : α → β) (fs : Fields α) : names (fs.map fun e => (e.1, f e.2)) = names fs := by
  simp [names]

/-- A look-up finds the image of what was there. -/
lemma find?_map {β : Type} (f : α → β) (key : String) (fs : Fields α) :
    find? key (fs.map fun e => (e.1, f e.2)) = (find? key fs).map f := by
  induction fs with
  | nil => rfl
  | cons e fs ih =>
      rw [List.map_cons, find?, find?, ih]
      split <;> rfl

/-- The names of two mappings are in one another if look-ups find something in
both or in none. -/
lemma names_subset {β : Type} {fs : Fields α} {gs : Fields β}
    (h : ∀ key, find? key gs = none → find? key fs = none) : names fs ⊆ names gs := by
  intro key hkey
  by_contra hgs
  exact find?_eq_none_iff.mp (h key (find?_eq_none_iff.mpr hgs)) hkey

/-- With distinct names, every entry is the one that is found. -/
lemma find?_of_mem {key : String} {value : α} {fs : Fields α} (hfs : Distinct fs)
    (h : (key, value) ∈ fs) : find? key fs = some value := by
  induction fs with
  | nil => cases h
  | cons e fs ih =>
      obtain ⟨hfresh, hfs⟩ := List.nodup_cons.mp hfs
      rcases List.mem_cons.mp h with rfl | h
      · rw [find?, if_pos rfl]
      · have hne : e.1 ≠ key := by
          rintro rfl
          exact hfresh (List.mem_map.mpr ⟨_, h, rfl⟩)
        rw [find?, if_neg hne, ih hfs h]

/-- What is found is an entry. -/
lemma mem_of_find? {key : String} {value : α} {fs : Fields α} (h : find? key fs = some value) :
    (key, value) ∈ fs := by
  induction fs with
  | nil => cases h
  | cons e fs ih =>
      obtain ⟨k, v⟩ := e
      rw [find?] at h
      split at h
      · rename_i hk
        rw [hk, Option.some.inj h]
        exact List.mem_cons_self
      · exact List.mem_cons_of_mem _ (ih h)

/-- What is found comes first, up to the order. -/
lemma perm_cons_erase {key : String} {value : α} {fs : Fields α}
    (h : find? key fs = some value) : fs.Perm ((key, value) :: erase key fs) := by
  induction fs with
  | nil => cases h
  | cons e fs ih =>
      obtain ⟨k, v⟩ := e
      rw [find?] at h
      by_cases hk : k = key
      · rw [if_pos hk] at h
        rw [erase_cons, if_pos hk, hk, Option.some.inj h]
      · rw [if_neg hk] at h
        rw [erase_cons, if_neg hk]
        exact ((ih h).cons (k, v)).trans (.swap (key, value) (k, v) _)

/-- Other names are found as before where a name was removed. -/
lemma find?_erase_of_ne {key other : String} (h : other ≠ key) (fs : Fields α) :
    find? other (erase key fs) = find? other fs := by
  induction fs with
  | nil => rfl
  | cons e fs ih =>
      obtain ⟨k, v⟩ := e
      rw [erase_cons]
      split
      · rename_i hk
        rw [find?, if_neg fun hother => h (hother.symm.trans hk)]
      · rw [find?, find?, ih]

/-- With distinct names, there is at most one entry to remove. -/
lemma erase_eq_filter (key : String) {fs : Fields α} (hfs : Distinct fs) :
    erase key fs = fs.filter fun e => e.1 != key := by
  induction fs with
  | nil => rfl
  | cons e fs ih =>
      obtain ⟨hfresh, hfs⟩ := List.nodup_cons.mp hfs
      by_cases hkey : e.1 = key
      · have hall : ∀ d ∈ fs, (d.1 != key) = true := by
          intro d hd
          rw [bne_iff_ne]
          rintro rfl
          exact hfresh (hkey ▸ List.mem_map_of_mem hd)
        rw [erase_cons, if_pos hkey, List.filter_cons_of_neg (by simp [hkey]),
          List.filter_eq_self.mpr hall]
      · rw [erase_cons, if_neg hkey, ih hfs, List.filter_cons_of_pos (by simp [hkey])]

/-- With distinct names, the entries under a name are the one that is found. -/
lemma filter_eq {fs : Fields α} (hfs : Distinct fs) (key : String) :
    (fs.filter fun e => e.1 == key) = (find? key fs).toList.map fun v => (key, v) := by
  induction fs with
  | nil => rfl
  | cons e fs ih =>
      obtain ⟨hfresh, hfs⟩ := List.nodup_cons.mp hfs
      by_cases hkey : e.1 = key
      · have hnone : find? key fs = none := find?_eq_none_iff.mpr (hkey ▸ hfresh)
        rw [List.filter_cons_of_pos (by simp [hkey]), ih hfs, find?, if_pos hkey, hnone, ← hkey]
        rfl
      · rw [List.filter_cons_of_neg (by simp [hkey]), ih hfs, find?, if_neg hkey]

/-- An entry after a name was set is the new one or was there before. -/
lemma mem_insert {key : String} {value : α} {fs : Fields α} {e : String × α}
    (h : e ∈ insert key value fs) : e = (key, value) ∨ e ∈ fs := by
  induction fs with
  | nil => exact Or.inl (List.mem_singleton.mp h)
  | cons d fs ih =>
      obtain ⟨k, v⟩ := d
      by_cases hk : k = key
      · subst hk
        rw [insert, if_pos rfl] at h
        exact (List.mem_cons.mp h).imp_right (List.mem_cons_of_mem _)
      · rw [insert, if_neg hk] at h
        rcases List.mem_cons.mp h with rfl | h
        · exact Or.inr (by simp)
        · exact (ih h).imp_right (List.mem_cons_of_mem _)

/-- An entry after names were set one after the other is one of those that were set. -/
lemma mem_ofList {entries : List (String × α)} {e : String × α} (h : e ∈ ofList entries) :
    e ∈ entries := by
  have hfold : ∀ fs : Fields α, e ∈ entries.foldl (fun fs d => insert d.1 d.2 fs) fs →
      e ∈ fs ∨ e ∈ entries := by
    clear h
    induction entries with
    | nil => exact fun fs h => .inl h
    | cons d entries ih =>
        intro fs h
        rcases ih _ h with h | h
        · rcases mem_insert h with rfl | h
          · exact .inr List.mem_cons_self
          · exact .inl h
        · exact .inr (List.mem_cons_of_mem d h)
  exact (hfold [] h).resolve_left (List.not_mem_nil)

/-- A name that is not in front is set in what follows. -/
lemma insert_append {key : String} {fs : Fields α} (h : key ∉ names fs) (value : α)
    (gs : Fields α) : insert key value (fs ++ gs) = fs ++ insert key value gs := by
  induction fs with
  | nil => rfl
  | cons e fs ih =>
      rw [names_cons, List.mem_cons, not_or] at h
      have hne : ¬ e.1 = key := fun heq => h.1 heq.symm
      rw [List.cons_append, insert, if_neg hne, ih h.2, List.cons_append]

/-- Names that are set one after the other are distinct. -/
lemma distinct_ofList (entries : List (String × α)) : Distinct (ofList entries) := by
  have hfold : ∀ fs : Fields α, Distinct fs →
      Distinct (entries.foldl (fun fs e => insert e.1 e.2 fs) fs) := by
    induction entries with
    | nil => exact fun fs hfs => hfs
    | cons e entries ih => exact fun fs hfs => ih _ (distinct_insert hfs e.1 e.2)
  exact hfold [] List.nodup_nil

/-- Entries with distinct names stay as they are when they are set one after the
other. -/
lemma ofList_of_distinct {fs : Fields α} (hfs : Distinct fs) : ofList fs = fs := by
  have hfold : ∀ front back : Fields α, Distinct (front ++ back) →
      back.foldl (fun fs e => insert e.1 e.2 fs) front = front ++ back := by
    intro front back
    induction back generalizing front with
    | nil => simp
    | cons e back ih =>
        intro h
        have hsplit : front ++ e :: back = (front ++ [e]) ++ back := by simp
        have hfresh : e.1 ∉ names front := by
          intro hmem
          rw [Distinct, names, List.map_append, List.map_cons] at h
          exact List.disjoint_of_nodup_append h hmem (by simp)
        have hnew : insert e.1 e.2 front = front ++ [e] := by
          simpa [insert] using insert_append hfresh e.2 []
        rw [List.foldl_cons, hnew, ih _ (hsplit ▸ h), hsplit]
  exact hfold [] fs hfs

end Fields

end EventQuery
