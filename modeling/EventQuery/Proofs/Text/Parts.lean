import Mathlib.Data.List.Basic
import Mathlib.Tactic.Lemma

/-!
The parts of a text.

* `partsAt`: what is between the occurrences of a character.
* `partsAt_append`: texts with the character between them have the parts of both.
* `partsAt_intercalate`: so do any number of texts, which are one text then.
* `intercalate_partsAt`: a text is known from its parts.
* `partsAt_filter`: what is left out of a text is left out of its parts.
-/

namespace EventQuery

/-- The parts of a text between the occurrences of a character. -/
def partsAt (stop : Char) (s : String) : List String := (s.toList.splitOn stop).map String.ofList

variable {stop : Char}

/-- Two texts with the character between them have the parts of both. -/
lemma partsAt_append {text front back : String}
    (h : text.toList = front.toList ++ stop :: back.toList) :
    partsAt stop text = partsAt stop front ++ partsAt stop back := by
  rw [partsAt, h, List.splitOn_eq_splitOnP, List.splitOnP_append_cons _ _ (by simp),
    List.map_append]
  rfl

/-- A text without the character is one part. -/
lemma partsAt_of_not_mem {s : String} (h : stop ∉ s.toList) : partsAt stop s = [s] := by
  have hnone : ∀ c ∈ s.toList, (c == stop) = false := by
    intro c hc
    rw [beq_eq_false_iff_ne]
    rintro rfl
    exact h hc
  rw [partsAt, List.splitOn_eq_splitOnP, List.splitOnP_eq_singleton hnone, List.map_singleton,
    String.ofList_toList]

/-- Texts with the character between them have the parts of all. -/
lemma partsAt_intercalate (first : String) (rest : List String) :
    partsAt stop ((String.singleton stop).intercalate (first :: rest))
      = (first :: rest).flatMap (partsAt stop) := by
  induction rest generalizing first with
  | nil => rw [String.intercalate_singleton, List.flatMap_singleton]
  | cons next rest ih =>
      have htext : ((String.singleton stop).intercalate (first :: next :: rest)).toList
          = first.toList
            ++ stop :: ((String.singleton stop).intercalate (next :: rest)).toList := by
        rw [String.intercalate_cons_cons, String.toList_append, String.toList_append,
          String.toList_singleton, List.append_assoc, List.singleton_append]
      rw [partsAt_append htext, ih, List.flatMap_cons, List.flatMap_cons, List.flatMap_cons]

/-- A text is its parts with the character between them. -/
lemma intercalate_partsAt (s : String) :
    (String.singleton stop).intercalate (partsAt stop s) = s := by
  have hparts : (partsAt stop s).map String.toList = s.toList.splitOn stop := by
    rw [partsAt, List.map_map]
    exact (List.map_congr_left fun part _ => String.toList_ofList).trans (List.map_id _)
  rw [← String.toList_inj, String.toList_intercalate, hparts, String.toList_singleton,
    List.intercalate_splitOn]

lemma partsAt_inj {s t : String} : partsAt stop s = partsAt stop t ↔ s = t := by
  refine ⟨fun h => ?_, fun h => h ▸ rfl⟩
  have htext := congrArg (String.singleton stop).intercalate h
  rwa [intercalate_partsAt, intercalate_partsAt] at htext

/-- What is left out of a list is left out of its parts, if the parts stay apart. -/
lemma splitOn_filter {keep : Char → Bool} (hstop : keep stop = true) (cs : List Char) :
    (cs.filter keep).splitOn stop = (cs.splitOn stop).map (List.filter keep) := by
  simp only [List.splitOn_eq_splitOnP]
  induction cs with
  | nil => rfl
  | cons c cs ih =>
      rw [List.splitOnP_cons_eq_if_modifyHead]
      by_cases hc : (c == stop) = true
      · obtain rfl := beq_iff_eq.mp hc
        rw [List.filter_cons_of_pos hstop, List.splitOnP_cons_eq_if_modifyHead, if_pos hc,
          if_pos hc, ih, List.map_cons, List.filter_nil]
      · -- the first character belongs to the first part
        obtain ⟨part, parts, hparts⟩ :=
          List.exists_cons_of_ne_nil (List.splitOnP_ne_nil (· == stop) cs)
        rw [hparts, List.map_cons] at ih
        rw [if_neg hc, hparts, List.modifyHead_cons, List.map_cons]
        by_cases hkeep : keep c = true
        · rw [List.filter_cons_of_pos hkeep, List.filter_cons_of_pos hkeep,
            List.splitOnP_cons_eq_if_modifyHead, if_neg hc, ih, List.modifyHead_cons]
        · rw [List.filter_cons_of_neg hkeep, List.filter_cons_of_neg hkeep, ih]

/-- What is left out of a text is left out of its parts. -/
lemma partsAt_filter {keep : Char → Bool} (hstop : keep stop = true) (s : String) :
    partsAt stop (String.ofList (s.toList.filter keep))
      = (partsAt stop s).map fun part => String.ofList (part.toList.filter keep) := by
  rw [partsAt, partsAt, String.toList_ofList, splitOn_filter hstop, List.map_map, List.map_map]
  refine List.map_congr_left fun part _ => ?_
  rw [Function.comp_apply, Function.comp_apply, String.toList_ofList]

end EventQuery
