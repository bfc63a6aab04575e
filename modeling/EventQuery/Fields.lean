/-!
Ordered mappings from names to values, as lists of pairs.

A name that is set again keeps its first position and takes the new value
(`Fields.insert`), so names stay distinct (`Fields.distinct_insert`) and a
later look-up finds the value set last (`Fields.find?_insert`).
-/

namespace EventQuery

/-- Names with their values, in the order in which they were first set. -/
abbrev Fields (α : Type) := List (String × α)

namespace Fields

variable {α : Type}

/-- The names, in order. -/
def names (fs : Fields α) : List String := fs.map Prod.fst

/-- The value of the first entry with this name. -/
def find? (key : String) : Fields α → Option α
  | [] => none
  | (k, v) :: rest => if k = key then some v else find? key rest

/-- Sets a name: in place if it is there, at the end if it is new. -/
def insert (key : String) (value : α) : Fields α → Fields α
  | [] => [(key, value)]
  | (k, v) :: rest => if k = key then (k, value) :: rest else (k, v) :: insert key value rest

/-- Removes the first entry with this name; the others keep their order. -/
def erase (key : String) : Fields α → Fields α
  | [] => []
  | (k, v) :: rest => if k = key then rest else (k, v) :: erase key rest

/-- Sets names from left to right, starting from nothing. -/
def ofList (entries : List (String × α)) : Fields α :=
  entries.foldl (fun fs e => insert e.1 e.2 fs) []

/-- No name occurs twice. -/
def Distinct (fs : Fields α) : Prop := (names fs).Nodup

/-! ### What setting a name does -/

theorem find?_insert_self (key : String) (value : α) (fs : Fields α) :
    find? key (insert key value fs) = some value := by
  induction fs with
  | nil => simp [insert, find?]
  | cons e rest ih =>
      obtain ⟨k, v⟩ := e
      by_cases h : k = key <;> simp [insert, find?, h, ih]

theorem find?_insert_of_ne {key other : String} (h : other ≠ key) (value : α) (fs : Fields α) :
    find? other (insert key value fs) = find? other fs := by
  induction fs with
  | nil => simp [insert, find?, Ne.symm h]
  | cons e rest ih =>
      obtain ⟨k, v⟩ := e
      by_cases hk : k = key
      · subst hk; simp [insert, find?, Ne.symm h]
      · simp [insert, find?, hk, ih]

/-- A later look-up finds the value set last. -/
theorem find?_insert (key other : String) (value : α) (fs : Fields α) :
    find? other (insert key value fs) = if other = key then some value else find? other fs := by
  by_cases h : other = key
  · subst h; simp [find?_insert_self]
  · simp [h, find?_insert_of_ne h]

theorem names_insert (key : String) (value : α) (fs : Fields α) :
    names (insert key value fs) = if key ∈ names fs then names fs else names fs ++ [key] := by
  induction fs with
  | nil => simp [insert, names]
  | cons e rest ih =>
      obtain ⟨k, v⟩ := e
      simp only [names] at ih
      by_cases hk : k = key
      · simp [insert, names, hk]
      · have hk' : ¬ key = k := fun h => hk h.symm
        simp only [insert, if_neg hk, names, List.map_cons, ih, List.mem_cons, hk', false_or]
        split <;> simp [*]

/-- Setting a name keeps the names distinct. -/
theorem distinct_insert {fs : Fields α} (h : Distinct fs) (key : String) (value : α) :
    Distinct (insert key value fs) := by
  unfold Distinct at *
  rw [names_insert]
  split
  · exact h
  · rename_i hk
    rw [List.nodup_append]
    refine ⟨h, by simp, ?_⟩
    intro a ha b hb hab
    simp only [List.mem_singleton] at hb
    exact hk (hb ▸ hab ▸ ha)

end Fields

end EventQuery
