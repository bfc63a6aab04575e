import EventQuery.Proofs.Service.Exchange
import EventQuery.Service.Handle
import Mathlib.Data.List.Infix

/-!
Pages of spans, and where collecting them stops.

* `Reply.spanPage?`, `Network.Brings`: the pages that the next replies bring.
* `StopsAt`: a page is one to stop at if it does not lead on or fills the limit;
  `GoesOn`: none of these pages is.
* `Network.Completes`, `Network.BreaksOff`: the two ways collecting pages can end, and
  `Network.Completes.of_isBelow`: how it ends with a lower limit.
-/

namespace EventQuery

/-! ### Pages in replies -/

/-- The page that a reply brings, if it is an answer that reports no error and holds one. -/
def Reply.spanPage? (reply : Reply) : Option SpanPage := reply.record? SpanPage.read?

/-- The next replies bring these pages. -/
def Network.Brings (n : Network) (pages : List SpanPage) : Prop :=
  pages.map some <+: n.replies.map Reply.spanPage?

/-- What a reply to a request for a page of spans comes to. -/
def Reply.spanOutcome (path : String) (reply : Reply) : Except ClientError SpanPage :=
  reply.outcome path fun a => a.decode SpanPage.read?

lemma Reply.spanOutcome_eq_ok_iff {path : String} {reply : Reply} {page : SpanPage} :
    reply.spanOutcome path = .ok page ↔ reply.spanPage? = some page :=
  outcome_decode_eq_ok_iff

/-- A reply that brings no page comes to an error. -/
lemma Reply.exists_spanOutcome_eq_error {reply : Reply} (h : reply.spanPage? = none)
    (path : String) : ∃ e, reply.spanOutcome path = .error e := by
  cases houtcome : reply.spanOutcome path with
  | error e => exact ⟨e, rfl⟩
  | ok page =>
      rw [spanOutcome_eq_ok_iff.mp houtcome] at h
      cases h

namespace Network

lemma brings_cons_iff {n : Network} {page : SpanPage} {pages : List SpanPage} :
    n.Brings (page :: pages) ↔ ∃ reply rest, n.replies = reply :: rest ∧
      reply.spanPage? = some page ∧ ∀ requests, (n.after requests rest).Brings pages := by
  rw [Brings, List.map_cons]
  cases hreplies : n.replies with
  | nil => simp
  | cons reply rest =>
      rw [List.map_cons, List.cons_prefix_cons]
      constructor
      · rintro ⟨hpage, hpages⟩
        exact ⟨reply, rest, rfl, hpage.symm, fun _ => hpages⟩
      · rintro ⟨_, _, heq, hpage, hpages⟩
        obtain ⟨rfl, rfl⟩ := List.cons.inj heq
        exact ⟨hpage.symm, hpages []⟩

/-- Fewer pages are brought as well. -/
lemma Brings.of_append {n : Network} {pages others : List SpanPage}
    (h : n.Brings (pages ++ others)) : n.Brings pages := by
  rw [Brings, List.map_append] at h
  exact (List.prefix_append _ _).trans h

/-- Replies bring pages up to one that brings none. -/
lemma exists_brings (n : Network) :
    ∃ pages, n.Brings pages ∧ (n.replyAt pages.length).spanPage? = none := by
  obtain ⟨reachable, replies, delivered⟩ := n
  induction replies with
  | nil => exact ⟨[], List.nil_prefix, rfl⟩
  | cons reply replies ih =>
      cases hreply : reply.spanPage? with
      | none => exact ⟨[], List.nil_prefix, hreply⟩
      | some page =>
          obtain ⟨pages, hpages, hnone⟩ := ih
          exact ⟨page :: pages, brings_cons_iff.mpr ⟨reply, replies, rfl, hreply, fun _ => hpages⟩,
            hnone⟩

end Network

/-! ### Where collecting stops -/

/-- The spans of pages, one page after the other. -/
def spansOf (pages : List SpanPage) : List Span := pages.flatMap SpanPage.spans

/-- The cursor to the next page, if there is to be one. -/
def SpanPage.onward (page : SpanPage) : Option String := Client.leadsOn page.next

/-- Spans up to a limit. -/
def cutTo (limit : Option Nat) (spans : List Span) : List Span :=
  match limit with
  | some most => spans.take most
  | none => spans

/-- A page is one to stop at if it does not lead on, or if the limit is reached with it. -/
def StopsAt (limit : Option Nat) (before : List SpanPage) (page : SpanPage) : Prop :=
  page.onward = none ∨ ∃ most, limit = some most ∧ most ≤ (spansOf (before ++ [page])).length

/-- Pages none of which is one to stop at. -/
def GoesOn (limit : Option Nat) (pages : List SpanPage) : Prop :=
  ∀ before page behind, pages = before ++ page :: behind → ¬ StopsAt limit before page

/-- The cursors that are asked for: a first one, and those of pages that lead on. -/
def asked (first : String) (pages : List SpanPage) : List String :=
  first :: pages.filterMap SpanPage.onward

/-- A limit that is no higher than another, if there is another. -/
def IsBelow (lower limit : Option Nat) : Prop :=
  ∀ most, limit = some most → ∃ least, lower = some least ∧ least ≤ most

section

variable {lower limit : Option Nat}

lemma goesOn_nil : GoesOn limit [] := by
  intro before page behind h
  simp at h

/-- An item of a list is its last one, or one of the others. -/
lemma concat_eq_append_cons {α : Type} {items before behind : List α} {last item : α}
    (h : items ++ [last] = before ++ item :: behind) :
    (items = before ∧ last = item ∧ behind = []) ∨ ∃ more, items = before ++ item :: more := by
  rcases List.eq_nil_or_concat behind with rfl | ⟨more, other, rfl⟩
  · obtain ⟨hitems, hlast⟩ := List.append_inj' h rfl
    exact .inl ⟨hitems, List.singleton_inj.mp hlast, rfl⟩
  · rw [List.concat_eq_append, ← List.cons_append, ← List.append_assoc] at h
    exact .inr ⟨more, (List.append_inj' h rfl).1⟩

lemma goesOn_concat {pages : List SpanPage} {page : SpanPage} (h : GoesOn limit pages)
    (hpage : ¬ StopsAt limit pages page) : GoesOn limit (pages ++ [page]) := by
  intro before other behind heq
  rcases concat_eq_append_cons heq with ⟨rfl, rfl, -⟩ | ⟨more, hpages⟩
  · exact hpage
  · exact h before other more hpages

lemma GoesOn.onward_ne_none {pages : List SpanPage} (h : GoesOn limit pages) :
    ∀ page ∈ pages, page.onward ≠ none := by
  intro page hpage hnone
  obtain ⟨before, behind, heq⟩ := List.append_of_mem hpage
  exact h before page behind heq (.inl hnone)

/-- One cursor is asked for after each page that leads on. -/
lemma GoesOn.length_asked {pages : List SpanPage} (h : GoesOn limit pages) (first : String) :
    (asked first pages).length = pages.length + 1 := by
  have hall := h.onward_ne_none
  rw [asked, List.length_cons, List.length_filterMap_eq_countP, List.countP_eq_length.mpr]
  intro page hpage
  exact Option.isSome_iff_ne_none.mpr (hall page hpage)

/-- Pages are collected up to a first one to stop at, or all of them are. -/
lemma goesOn_or_exists_stopsAt (limit : Option Nat) (pages : List SpanPage) :
    GoesOn limit pages ∨ ∃ before page behind, pages = before ++ page :: behind ∧
      GoesOn limit before ∧ StopsAt limit before page := by
  induction pages using List.reverseRecOn with
  | nil => exact .inl goesOn_nil
  | append_singleton pages last ih =>
      rcases ih with hon | ⟨before, page, behind, rfl, hon, hstop⟩
      · by_cases hlast : StopsAt limit pages last
        · exact .inr ⟨pages, last, [], rfl, hon, hlast⟩
        · exact .inl (goesOn_concat hon hlast)
      · exact .inr ⟨before, page, behind ++ [last], by simp, hon, hstop⟩

lemma StopsAt.of_isBelow (h : IsBelow lower limit) {before : List SpanPage} {page : SpanPage}
    (hstop : StopsAt limit before page) : StopsAt lower before page := by
  rcases hstop with hnone | ⟨most, hmost, hle⟩
  · exact .inl hnone
  · obtain ⟨least, hleast, hbelow⟩ := h most hmost
    exact .inr ⟨least, hleast, hbelow.trans hle⟩

lemma cutTo_cutTo (h : IsBelow lower limit) (spans : List Span) :
    cutTo lower (cutTo limit spans) = cutTo lower spans := by
  cases limit with
  | none => rfl
  | some most =>
      obtain ⟨least, rfl, hle⟩ := h most rfl
      rw [cutTo, cutTo, cutTo, List.take_take, Nat.min_eq_left hle]

lemma spansOf_append (pages others : List SpanPage) :
    spansOf (pages ++ others) = spansOf pages ++ spansOf others := List.flatMap_append

lemma spansOf_concat (pages : List SpanPage) (page : SpanPage) :
    spansOf (pages ++ [page]) = spansOf pages ++ page.spans := by
  rw [spansOf_append, spansOf, spansOf, List.flatMap_singleton]

/-- What a limit leaves of the spans up to a page to stop at is what it leaves of all of
them. -/
lemma cutTo_spansOf_of_stopsAt {pages before behind : List SpanPage} {last page : SpanPage}
    (hon : GoesOn limit pages) (heq : pages ++ [last] = before ++ page :: behind)
    (hstop : StopsAt lower before page) :
    cutTo lower (spansOf (before ++ [page])) = cutTo lower (spansOf (pages ++ [last])) := by
  rcases concat_eq_append_cons heq with ⟨rfl, rfl, -⟩ | ⟨more, hpages⟩
  · rfl
  · have honward := hon.onward_ne_none page (by simp [hpages])
    obtain ⟨least, rfl, hle⟩ := hstop.resolve_left honward
    have hparts : pages ++ [last] = (before ++ [page]) ++ behind := by simp [heq]
    rw [hparts, spansOf_append (before ++ [page]), cutTo, cutTo,
      List.take_append_of_le_length hle]

end

/-! ### Collecting pages -/

namespace Network

/-- The next replies bring pages up to a first one to stop at. -/
structure Completes (n : Network) (limit : Option Nat) (before : List SpanPage)
    (last : SpanPage) : Prop where
  brings : n.Brings (before ++ [last])
  goesOn : GoesOn limit before
  stopsAt : StopsAt limit before last

/-- The next replies bring pages, but none to stop at before a reply that brings none. -/
structure BreaksOff (n : Network) (limit : Option Nat) (before : List SpanPage) : Prop where
  brings : n.Brings before
  goesOn : GoesOn limit before
  fails : (n.replyAt before.length).spanPage? = none

lemma completes_or_breaksOff (n : Network) (limit : Option Nat) :
    (∃ before last, n.Completes limit before last) ∨ ∃ before, n.BreaksOff limit before := by
  obtain ⟨pages, hpages, hnone⟩ := n.exists_brings
  rcases goesOn_or_exists_stopsAt limit pages with hon | ⟨before, page, behind, rfl, hon, hstop⟩
  · exact .inr ⟨pages, hpages, hon, hnone⟩
  · rw [List.append_cons] at hpages
    exact .inl ⟨before, page, hpages.of_append, hon, hstop⟩

/-- **A lower limit is reached with the same page or before it**, and with the beginning of
the same spans. -/
lemma Completes.of_isBelow {n : Network} {lower limit : Option Nat} (h : IsBelow lower limit)
    {pages : List SpanPage} {last : SpanPage} (hpages : n.Completes limit pages last) :
    ∃ before page, n.Completes lower before page ∧ before.length ≤ pages.length ∧
      cutTo lower (spansOf (before ++ [page])) = cutTo lower (spansOf (pages ++ [last])) := by
  rcases goesOn_or_exists_stopsAt lower (pages ++ [last]) with
    hon | ⟨before, page, behind, heq, hon, hstop⟩
  · exact absurd (hpages.stopsAt.of_isBelow h) (hon pages last [] rfl)
  · have hbrings := hpages.brings
    have hlength := congrArg List.length heq
    rw [heq, List.append_cons] at hbrings
    simp only [List.length_append, List.length_cons, List.length_nil] at hlength
    exact ⟨before, page, ⟨hbrings.of_append, hon, hstop⟩, by omega,
      cutTo_spansOf_of_stopsAt hpages.goesOn heq hstop⟩

end Network

end EventQuery
