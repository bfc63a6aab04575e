import EventQuery.Proofs.Service.Exchange
import EventQuery.Service.Handle

/-!
Requests for events, and slices of spans.

* `Client.groupsFrom_reaches`: the loop over pages of events asks for nothing but pages of
  events, at its own cursor first.
* `Handle.slicesOf_reaches`: the slices of spans are taken span by span, one for each, or
  come to an error.
-/

namespace EventQuery

/-! ### Pages of events -/

namespace Client

/-- The request for a page of events. -/
def eventRequest (c : Client) (cursor : String) : Request :=
  c.getRequest ["query", cursor, "events"]

/-- Requests for pages of events of which the first is at a cursor. -/
def IsEventBlock (c : Client) (cursor : String) (requests : List Request) : Prop :=
  ∃ later, requests = (cursor :: later).map c.eventRequest

/-- What an answer with a page of events comes to. -/
def readEvents (a : Answer) : Except ClientError (EventPage × Option String) := do
  let page ← a.decode (EventPage.read? Document.maxNesting)
  return (page, a.header? "cursor")

lemma eventPage_eq_ask (c : Client) (cursor : String) :
    c.eventPage cursor
      = (do let a ← (c.eventRequest cursor).ask; Action.ofExcept (readEvents a)) := by
  have huse : ∀ a : Answer, (do
      let page ← Action.ofExcept (a.decode (EventPage.read? Document.maxNesting))
      return (page, a.header? "cursor") : Action Network _) = Action.ofExcept (readEvents a) := by
    intro a
    funext n
    rw [readEvents, Action.bind_apply]
    cases a.decode (EventPage.read? Document.maxNesting) <;> rfl
  rw [eventPage]
  simp only [huse]
  rfl

variable {c : Client} {n : Network}

/-- A page of events is what the next reply comes to. -/
lemma eventPage_eq (hreach : n.reachable = true)
    (hbase : c.base.scheme = "http" ∨ c.base.scheme = "https") (cursor : String) :
    c.eventPage cursor n
      = (n.nextReply.outcome (c.eventRequest cursor).url.path.text readEvents,
        n.after [c.eventRequest cursor] n.replies.tail) :=
  (congrFun (c.eventPage_eq_ask cursor) n).trans
    (Request.ask_of_reachable hreach hbase (c.scheme_request _ _ _) _)

lemma eventPage_reaches (hn : n.Delivers c) {cursor : String} {n' : Network}
    {r : Except ClientError (EventPage × Option String)} (h : c.eventPage cursor n = (r, n')) :
    n.Reaches [c.eventRequest cursor] n' := by
  rw [eventPage_eq hn.reachable hn.sendable] at h
  cases h
  exact n.reaches_after _ _

/-- **The loop over pages of events** asks for pages of events only. -/
lemma groupsFrom_reaches (cursor : String) (groups : Groups) (hn : n.Delivers c) :
    ∃ requests, c.IsEventBlock cursor requests ∧
      n.Reaches requests (c.groupsFrom cursor groups n).2 := by
  fun_induction groupsFrom c cursor groups n with
  | case1 cursor groups n e n' hpage =>
      exact ⟨_, ⟨[], rfl⟩, eventPage_reaches hn hpage⟩
  | case2 cursor groups n page next n' hpage groups' hnext =>
      exact ⟨_, ⟨[], rfl⟩, eventPage_reaches hn hpage⟩
  | case3 cursor groups n page next n' hpage groups' next' hnext ih =>
      have hreaches := eventPage_reaches hn hpage
      obtain ⟨_, ⟨later, rfl⟩, hmore⟩ := ih (hreaches.delivers hn)
      exact ⟨_, ⟨next' :: later, rfl⟩, hreaches.trans hmore⟩

end Client

/-! ### Slices -/

namespace Handle

variable {h : Handle} {n : Network}

/-- A slice is what the groups come to, between its bounds. -/
lemma slice_eq {cursor : String} {start stop : Instant} {n' : Network}
    {r : Except ClientError Groups}
    (hgroups : h.client.groupsFrom (sliceCursor cursor start stop) [] n = (r, n')) :
    h.slice cursor start stop n
      = (r.map fun groups => ⟨start, stop, groups.map Prod.snd⟩, n') := by
  refine (Action.map_apply (h.client.groupsFrom (sliceCursor cursor start stop) []) _ n).trans ?_
  rw [hgroups]

/-- A slice asks for pages of events only. -/
lemma slice_reaches (hn : n.Delivers h.client) {cursor : String} {start stop : Instant}
    {r : Except ClientError Slice} {n' : Network} (hslice : h.slice cursor start stop n = (r, n')) :
    ∃ requests, h.client.IsEventBlock (sliceCursor cursor start stop) requests ∧
      n.Reaches requests n' := by
  obtain ⟨requests, hblock, hreaches⟩ :=
    Client.groupsFrom_reaches (sliceCursor cursor start stop) [] hn
  rcases hgroups : h.client.groupsFrom (sliceCursor cursor start stop) [] n with ⟨groups, m⟩
  rw [slice_eq hgroups] at hslice
  rw [hgroups] at hreaches
  cases hslice
  exact ⟨requests, hblock, hreaches⟩

/-- The cursor to the events of a span: between its ends, or what stands in for them. -/
def spanCursor (s : Span) : String :=
  sliceCursor s.cursor (s.start.getD .earliest) (s.stop.getD .latest)

/-- A slice of a span: between the same bounds, and taken over the network. -/
structure IsSliceOf (h : Handle) (s : Span) (slice : Slice) : Prop where
  start : slice.start = s.start.getD .earliest
  stop : slice.stop = s.stop.getD .latest
  taken : ∃ n n', h.sliceOf s n = (.ok slice, n')

lemma isSliceOf_of_sliceOf {s : Span} {slice : Slice} {n' : Network}
    (hslice : h.sliceOf s n = (.ok slice, n')) : h.IsSliceOf s slice := by
  have hbounds : slice.start = s.start.getD .earliest ∧ slice.stop = s.stop.getD .latest := by
    rcases hgroups : h.client.groupsFrom (spanCursor s) [] n with ⟨e | groups, m⟩ <;>
      rw [sliceOf, slice_eq hgroups] at hslice <;> cases hslice
    exact ⟨rfl, rfl⟩
  exact ⟨hbounds.1, hbounds.2, n, n', hslice⟩

lemma slicesOf_cons_of_error {s : Span} {e : ClientError} {n' : Network}
    (hslice : h.sliceOf s n = (.error e, n')) (spans : List Span) :
    h.slicesOf (s :: spans) n = (.error e, n') :=
  Action.bind_of_error hslice _

lemma slicesOf_cons_of_ok {s : Span} {slice : Slice} {n' : Network}
    (hslice : h.sliceOf s n = (.ok slice, n')) (spans : List Span) :
    h.slicesOf (s :: spans) n
      = ((h.slicesOf spans n').1.map (slice :: ·), (h.slicesOf spans n').2) :=
  (Action.bind_of_ok hslice _).trans (Action.map_apply _ _ n')

/-- **Slices are taken span by span**: the events of each span are asked for after those of
the spans before it, and there is a slice of each span, or an error. -/
lemma slicesOf_reaches (spans : List Span) :
    ∀ {n : Network}, n.Delivers h.client →
      ∃ begun blocks, begun <+: spans ∧
        List.Forall₂ (fun s block => h.client.IsEventBlock (spanCursor s) block) begun blocks ∧
        n.Reaches blocks.flatten (h.slicesOf spans n).2 ∧
        ∀ slices, (h.slicesOf spans n).1 = .ok slices →
          begun = spans ∧ List.Forall₂ h.IsSliceOf spans slices := by
  induction spans with
  | nil =>
      intro n _
      refine ⟨[], [], List.nil_prefix, .nil, n.reaches_self, fun slices hslices => ⟨rfl, ?_⟩⟩
      cases hslices
      exact .nil
  | cons s spans ih =>
      intro n hn
      rcases hslice : h.sliceOf s n with ⟨e | slice, n'⟩
      · obtain ⟨block, hblock, hreaches⟩ := slice_reaches hn hslice
        rw [slicesOf_cons_of_error hslice]
        refine ⟨[s], [block], List.prefix_append [s] spans, .cons hblock .nil, ?_, fun _ h => ?_⟩
        · simpa using hreaches
        · cases h
      · obtain ⟨block, hblock, hreaches⟩ := slice_reaches hn hslice
        obtain ⟨begun, blocks, hprefix, hblocks, hmore, hall⟩ := ih (hreaches.delivers hn)
        rw [slicesOf_cons_of_ok hslice]
        refine ⟨s :: begun, block :: blocks, List.cons_prefix_cons.mpr ⟨rfl, hprefix⟩,
          .cons hblock hblocks, hreaches.trans hmore, fun slices hslices => ?_⟩
        rcases hrest : (h.slicesOf spans n').1 with e | rest
        · rw [hrest] at hslices
          cases hslices
        · rw [hrest] at hslices
          cases hslices
          obtain ⟨rfl, hrest⟩ := hall rest hrest
          exact ⟨rfl, .cons (isSliceOf_of_sliceOf hslice) hrest⟩

end Handle

end EventQuery
