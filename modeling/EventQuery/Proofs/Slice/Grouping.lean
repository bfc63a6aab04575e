import EventQuery.Proofs.Fields
import EventQuery.Record.Slice
import Mathlib.Data.List.Forall2
import Mathlib.Data.List.TakeWhile

/-!
What groups hold after any number of pages.

* `announced`, `descriptor?`, `arrivals`: the hashes in the order in which they
  come first, the descriptor of a hash and its events, told from the pages as a
  whole.
* `Groups.Collects`: groups hold just that, which every page keeps
  (`Groups.Collects.addPage`).
* `Groups.Collects.addPages`: so the pages one after the other make groups that do.
-/

namespace EventQuery

/-! ### What pages tell -/

/-- The hash that an event is marked with, if it is a string. -/
def streamHash? (event : Object) : Option String :=
  (Fields.find? hashKey event).bind Json.string?

/-- The events that are marked with a hash, without the mark. -/
def markedWith (hash : String) (events : List Object) : List Object :=
  (events.filter fun e => streamHash? e == some hash).map fun e => e.filter fun m => m.1 != hashKey

/-- The hashes that are announced, in the order in which they come first. -/
def announced (pages : List EventPage) : List String :=
  (pages.flatMap fun p => Fields.names p.streams).eraseDups

/-- The descriptor that comes with a hash first. -/
def descriptor? (hash : String) (pages : List EventPage) : Option Json :=
  pages.findSome? fun p => Fields.find? hash p.streams

/-- The events of a hash from the page on that announces it. -/
def arrivals (hash : String) (pages : List EventPage) : List Object :=
  markedWith hash ((pages.dropWhile fun p => !(Fields.names p.streams).contains hash).flatMap
    EventPage.events)

/-- Groups hold what the pages tell. -/
structure Groups.Collects (groups : Groups) (pages : List EventPage) : Prop where
  distinct : Fields.Distinct groups
  names_eq : Fields.names groups = announced pages
  find?_eq : ∀ hash, Fields.find? hash groups
    = (descriptor? hash pages).map fun d => ⟨d, arrivals hash pages⟩

lemma markedWith_append (hash : String) (es fs : List Object) :
    markedWith hash (es ++ fs) = markedWith hash es ++ markedWith hash fs := by
  rw [markedWith, List.filter_append, List.map_append, markedWith, markedWith]

lemma descriptor?_append (hash : String) (pages : List EventPage) (p : EventPage) :
    descriptor? hash (pages ++ [p])
      = (descriptor? hash pages).or (Fields.find? hash p.streams) := by
  rw [descriptor?, List.findSome?_append, List.findSome?_singleton, descriptor?]

/-- A hash has no descriptor if no page announces it. -/
lemma descriptor?_eq_none_iff {hash : String} {pages : List EventPage} :
    descriptor? hash pages = none
      ↔ ∀ p ∈ pages, (!(Fields.names p.streams).contains hash) = true := by
  rw [descriptor?, List.findSome?_eq_none_iff]
  simp [Fields.find?_eq_none_iff]

lemma arrivals_eq_nil {hash : String} {pages : List EventPage}
    (h : descriptor? hash pages = none) : arrivals hash pages = [] := by
  rw [arrivals, List.dropWhile_eq_nil_iff.mpr (descriptor?_eq_none_iff.mp h)]
  rfl

/-- On the next page there are more arrivals if the hash is known by then. -/
lemma arrivals_append (hash : String) (pages : List EventPage) (p : EventPage) :
    arrivals hash (pages ++ [p]) = arrivals hash pages ++
      (if descriptor? hash (pages ++ [p]) = none then [] else markedWith hash p.events) := by
  by_cases hold : descriptor? hash pages = none
  · have hdrop := descriptor?_eq_none_iff.mp hold
    rw [arrivals_eq_nil hold, List.nil_append, descriptor?_append, hold, Option.none_or, arrivals,
      List.dropWhile_append_of_pos hdrop]
    by_cases hp : hash ∈ Fields.names p.streams
    · rw [if_neg (fun h => Fields.find?_eq_none_iff.mp h hp)]
      simp [hp]
    · rw [if_pos (Fields.find?_eq_none_iff.mpr hp)]
      simp [hp, markedWith]
  · have hfound : ((pages.dropWhile fun p => !(Fields.names p.streams).contains hash).isEmpty)
        = false := by
      rw [List.isEmpty_eq_false_iff, Ne, List.dropWhile_eq_nil_iff]
      exact fun h => hold (descriptor?_eq_none_iff.mpr h)
    have hnew : descriptor? hash (pages ++ [p]) ≠ none := by
      rw [descriptor?_append, Ne, Option.or_eq_none_iff]
      exact fun h => hold h.1
    rw [if_neg hnew, arrivals, List.dropWhile_append, hfound, arrivals]
    simp [markedWith_append]

/-! ### What a page does to groups -/

/-- The group with more events behind those it has. -/
def StreamEvents.append (g : StreamEvents) (events : List Object) : StreamEvents :=
  { g with events := g.events ++ events }

namespace Groups

lemma names_announce (groups : Groups) (entry : String × Json) :
    Fields.names (groups.announce entry) = if entry.1 ∈ Fields.names groups then
      Fields.names groups else Fields.names groups ++ [entry.1] := by
  rw [announce]
  split
  · rename_i g hg
    rw [if_pos]
    by_contra hnot
    rw [Fields.find?_eq_none_iff.mpr hnot] at hg
    cases hg
  · rename_i hg
    rw [if_neg (Fields.find?_eq_none_iff.mp hg), Fields.names, List.map_append]
    rfl

/-- Announcing keeps groups in the order in which their hashes come first. -/
lemma names_announceAll (entries : Fields Json) :
    ∀ {groups : Groups} {hashes : List String}, Fields.names groups = hashes.eraseDups →
      Fields.names (entries.foldl announce groups)
        = (hashes ++ Fields.names entries).eraseDups := by
  induction entries with
  | nil =>
      intro groups hashes h
      simpa [Fields.names] using h
  | cons e entries ih =>
      intro groups hashes h
      have hnext : Fields.names (groups.announce e) = (hashes ++ [e.1]).eraseDups := by
        rw [names_announce, h, List.eraseDups_append]
        by_cases he : e.1 ∈ hashes
        · simp [he, List.mem_eraseDups, List.removeAll]
        · simp [he, List.mem_eraseDups, List.removeAll, List.eraseDups_cons]
      rw [List.foldl_cons, ih hnext, Fields.names_cons, List.append_assoc, List.singleton_append]

lemma distinct_announceAll (entries : Fields Json) :
    ∀ {groups : Groups}, Fields.Distinct groups →
      Fields.Distinct (entries.foldl announce groups) := by
  induction entries with
  | nil => exact fun h => h
  | cons e entries ih =>
      intro groups h
      refine ih ?_
      rw [Fields.Distinct, names_announce]
      split
      · exact h
      · rename_i hfresh
        exact List.nodup_append.mpr ⟨h, List.nodup_singleton _, by
          rintro a ha b hb rfl
          exact hfresh (List.mem_singleton.mp hb ▸ ha)⟩

lemma find?_announce (hash : String) (groups : Groups) (entry : String × Json) :
    Fields.find? hash (groups.announce entry) = (Fields.find? hash groups).or
      (if entry.1 = hash then some ⟨entry.2, []⟩ else none) := by
  rw [announce]
  split
  · rename_i g hg
    by_cases hentry : entry.1 = hash
    · rw [← hentry, hg, Option.some_or]
    · rw [if_neg hentry, Option.or_none]
  · rw [Fields.find?_append]
    rfl

/-- Announcing adds empty groups and changes none. -/
lemma find?_announceAll (hash : String) (entries : Fields Json) :
    ∀ groups : Groups, Fields.find? hash (entries.foldl announce groups)
      = (Fields.find? hash groups).or ((Fields.find? hash entries).map fun d => ⟨d, []⟩) := by
  induction entries with
  | nil => simp [Fields.find?]
  | cons e entries ih =>
      intro groups
      rw [List.foldl_cons, ih, find?_announce, Option.or_assoc, Fields.find?]
      split <;> simp

lemma names_addTo (hash : String) (event : Object) (groups : Groups) :
    Fields.names (addTo hash event groups) = Fields.names groups := by
  induction groups with
  | nil => rfl
  | cons g groups ih =>
      obtain ⟨h, g⟩ := g
      rw [addTo]
      split
      · rfl
      · rw [Fields.names_cons, ih, Fields.names_cons]

lemma find?_addTo (hash : String) (event : Object) (other : String) (groups : Groups) :
    Fields.find? other (addTo hash event groups) = (Fields.find? other groups).map fun g =>
      if hash = other then g.append [event] else g := by
  induction groups with
  | nil => rfl
  | cons g groups ih =>
      obtain ⟨h, g⟩ := g
      by_cases hh : h = hash
      · by_cases hother : h = other
        · simp [addTo, Fields.find?, hh, ← hother, StreamEvents.append]
        · have hne : hash ≠ other := hh ▸ hother
          simp [addTo, Fields.find?, hh, hne]
      · by_cases hother : h = other
        · have hne : hash ≠ other := fun h' => hh (hother.trans h'.symm)
          rw [addTo, if_neg hh, Fields.find?, if_pos hother, Fields.find?, if_pos hother]
          simp [hne]
        · simp [addTo, Fields.find?, hh, hother, ih]

lemma names_addEvent (groups : Groups) (event : Object) :
    Fields.names (groups.addEvent event) = Fields.names groups := by
  rw [addEvent]
  split
  · exact names_addTo _ _ _
  · rfl

/-- An event goes to the group it is marked with, and nowhere else. -/
lemma find?_addEvent (hash : String) (groups : Groups) {event : Object}
    (hevent : Fields.Distinct event) : Fields.find? hash (groups.addEvent event)
      = (Fields.find? hash groups).map fun g => g.append (markedWith hash [event]) := by
  rw [addEvent]
  split
  · rename_i h hmark
    have hhash : streamHash? event = some h := by rw [streamHash?, hmark]; rfl
    rw [find?_addTo, Fields.erase_eq_filter hashKey hevent]
    congr 1
    funext g
    by_cases hh : h = hash
    · simp [markedWith, hhash, hh]
    · simp [markedWith, hhash, hh, StreamEvents.append]
  · rename_i hmark
    have hhash : streamHash? event = none := by
      rw [streamHash?]
      cases hfind : Fields.find? hashKey event with
      | none => rfl
      | some v =>
          cases v with
          | string h => exact absurd hfind (hmark h)
          | _ => rfl
    simp [markedWith, hhash, StreamEvents.append]

/-- The events of a page go to their groups in order. -/
lemma find?_addEvents (hash : String) {events : List Object}
    (hevents : ∀ e ∈ events, Fields.Distinct e) : ∀ groups : Groups,
    Fields.names (events.foldl addEvent groups) = Fields.names groups ∧
      Fields.find? hash (events.foldl addEvent groups)
        = (Fields.find? hash groups).map fun g => g.append (markedWith hash events) := by
  induction events with
  | nil => simp [markedWith, StreamEvents.append]
  | cons e events ih =>
      intro groups
      obtain ⟨he, hes⟩ := List.forall_mem_cons.mp hevents
      obtain ⟨hnames, hfind⟩ := ih hes (groups.addEvent e)
      have happend : markedWith hash (e :: events)
          = markedWith hash [e] ++ markedWith hash events := markedWith_append hash [e] events
      rw [List.foldl_cons, hnames, hfind, names_addEvent, find?_addEvent hash groups he, happend]
      simp [StreamEvents.append, Function.comp_def]

/-- **Groups keep to the pages**: if they hold what the pages so far tell, they do
after the next page. -/
lemma Collects.addPage {groups : Groups} {pages : List EventPage} (h : groups.Collects pages)
    {page : EventPage} (hpage : ∀ e ∈ page.events, Fields.Distinct e) :
    (groups.addPage page).Collects (pages ++ [page]) := by
  have hannounced : Fields.names (page.streams.foldl announce groups)
      = announced (pages ++ [page]) := by
    rw [names_announceAll page.streams h.names_eq, announced, List.flatMap_append,
      List.flatMap_singleton]
  have hnames : Fields.names (groups.addPage page) = announced (pages ++ [page]) := by
    rw [Groups.addPage, (find?_addEvents "" hpage _).1, hannounced]
  refine ⟨?_, hnames, fun hash => ?_⟩
  · rw [Fields.Distinct, hnames, ← hannounced]
    exact distinct_announceAll page.streams h.distinct
  · rw [Groups.addPage, (find?_addEvents hash hpage _).2, find?_announceAll, h.find?_eq,
      arrivals_append, descriptor?_append]
    cases hold : descriptor? hash pages with
    | some d => simp [StreamEvents.append]
    | none =>
        cases hnew : Fields.find? hash page.streams with
        | some d => simp [StreamEvents.append, arrivals_eq_nil hold]
        | none => rfl

/-- Before the first page there is nothing to hold. -/
lemma collects_nil : Collects [] [] := ⟨List.nodup_nil, rfl, fun _ => rfl⟩

/-- **Pages one after the other** make groups that hold what the pages tell. -/
theorem Collects.addPages {groups : Groups} {seen : List EventPage} (h : groups.Collects seen)
    {pages : List EventPage} (hpages : ∀ p ∈ pages, ∀ e ∈ p.events, Fields.Distinct e) :
    (pages.foldl Groups.addPage groups).Collects (seen ++ pages) := by
  induction pages generalizing groups seen with
  | nil => rwa [List.append_nil]
  | cons page pages ih =>
      obtain ⟨hpage, hpages⟩ := List.forall_mem_cons.mp hpages
      have hrest := ih (h.addPage hpage) hpages
      rwa [List.append_assoc] at hrest

/-- The groups in order: one for each hash announced. -/
lemma Collects.streams {groups : Groups} {pages : List EventPage} (h : groups.Collects pages) :
    List.Forall₂ (fun hash (g : StreamEvents) =>
      descriptor? hash pages = some g.stream ∧ g.events = arrivals hash pages)
      (announced pages) (groups.map Prod.snd) := by
  rw [← h.names_eq, Fields.names, List.forall₂_map_left_iff, List.forall₂_map_right_iff,
    List.forall₂_same]
  rintro ⟨hash, g⟩ hg
  have hfind := h.find?_eq hash
  rw [Fields.find?_of_mem h.distinct hg] at hfind
  obtain ⟨d, hd, rfl⟩ := Option.map_eq_some_iff.mp hfind.symm
  exact ⟨hd, rfl⟩

end Groups

end EventQuery
