import EventQuery.Proofs.Json.Rendering
import EventQuery.Proofs.Service.Bodies
import EventQuery.Proofs.Slice.Grouping
import EventQuery.Proofs.Slice.Requests

/-!
Slices from the pages that are served.

* `ServedPage`: an answer that is accepted, with the page in it.
* `Network.Serves`: the next replies bring these pages.
* `Client.groupsFrom_serves`, `Client.groupsFrom_fails`: what the loop over the
  pages gives, and which requests it makes.
* `slice_groups_events`: the slice of the pages served.
-/

namespace EventQuery

/-! ### Events as they are read -/

/-- Objects are read with distinct names. -/
lemma Document.distinct_of_object? {levels : Nat} {d : Document} {o : Object}
    (h : d.object? levels = some o) : Fields.Distinct o := by
  cases d with
  | object ms =>
      cases levels with
      | zero => cases h
      | succ levels =>
          rw [Document.object?, Document.value?] at h
          cases hms : Document.memberValues? levels ms with
          | none =>
              rw [hms] at h
              cases h
          | some vs =>
              rw [hms] at h
              cases h
              exact Fields.distinct_ofList vs
  | _ => cases h

/-- Every item of a list has been read. -/
lemma Document.exists_of_list? {α : Type} {read : Document → Option α} {d : Document}
    {items : List α} (h : d.list? read = some items) : ∀ a ∈ items, ∃ e, read e = some a := by
  cases d with
  | array ds =>
      rw [Document.list?] at h
      induction ds generalizing items with
      | nil =>
          cases h
          simp
      | cons d ds ih =>
          simp only [List.mapM_cons, Option.bind_eq_bind, Option.bind_eq_some_iff,
            Option.pure_def, Option.some.injEq] at h
          obtain ⟨a, ha, as, has, rfl⟩ := h
          rw [List.forall_mem_cons]
          exact ⟨⟨d, ha⟩, ih has⟩
  | _ => cases h

/-- The events of a page are read with distinct names. -/
lemma EventPage.distinct_of_read? {levels : Nat} {d : Document} {page : EventPage}
    (h : EventPage.read? levels d = some page) : ∀ e ∈ page.events, Fields.Distinct e := by
  simp only [EventPage.read?, Option.bind_eq_bind, Option.bind_eq_some_iff] at h
  obtain ⟨ms, -, h⟩ := h
  split at h
  · rename_i streams events
    have hevents : page.events = [] ∨
        ∃ e, Document.list? (Document.object? (levels - 2)) e = some page.events := by
      cases events with
      | none =>
          cases streams <;>
            simp only [Option.bind_some, Option.bind_eq_some_iff, Option.pure_def,
              Option.some.injEq] at h
          · exact .inl (h ▸ rfl)
          · obtain ⟨_, -, rfl⟩ := h
            exact .inl rfl
      | some e =>
          cases streams <;>
            simp only [Option.bind_some, Option.bind_eq_some_iff, Option.pure_def,
              Option.some.injEq] at h
          · obtain ⟨_, hes, rfl⟩ := h
            exact .inr ⟨e, hes⟩
          · obtain ⟨_, -, _, hes, rfl⟩ := h
            exact .inr ⟨e, hes⟩
    intro e he
    rcases hevents with hnil | ⟨d, hd⟩
    · rw [hnil] at he
      cases he
    · obtain ⟨e', he'⟩ := Document.exists_of_list? hd e he
      exact Document.distinct_of_object? he'
  · cases h

/-- A page is read part by part. -/
lemma EventPage.read?_object {levels : Nat} {streams events : Document} {page : EventPage}
    (hstreams : streams.object? (levels - 1) = some page.streams)
    (hevents : events.list? (Document.object? (levels - 2)) = some page.events) :
    EventPage.read? levels (.object
      [(.ofString "streams", streams), (.ofString "events", events)]) = some page := by
  have hparts : Document.members? ["streams", "events"] (.object
      [(.ofString "streams", streams), (.ofString "events", events)])
      = some [some streams, some events] := by rfl
  rw [EventPage.read?, hparts]
  simp [hstreams, hevents]

/-! ### Pages that are served -/

/-- A reply that is an answer, reports no error and holds a page of events. -/
structure ServedPage where
  reply : Reply
  answer : Answer
  page : EventPage
  arrived : reply.answer? = some answer
  accepted : answer.status < 400 ∨ 600 ≤ answer.status
  decoded : answer.decode (EventPage.read? Document.maxNesting) = .ok page

namespace ServedPage

/-- The cursor to the next page, if there is to be one. -/
def next (p : ServedPage) : Option String := Client.leadsOn (p.answer.header? "cursor")

/-- Whether a header value is visible text: blanks and tabs are. -/
def isVisible (value : String) : Prop :=
  ∀ c ∈ value.toList, c = '\t' ∨ (0x20 ≤ c.toNat ∧ c.toNat < 0x7f)

/-- The first header `cursor`, whatever the case of its name. -/
def cursorHeader? (a : Answer) : Option String :=
  (a.headers.find? fun h => h.1.toList.map Char.toLower == "cursor".toList).map Prod.snd

/-- A page leads on with the text of its cursor header, unless that is empty or
not visible. -/
lemma next_eq_some_iff {p : ServedPage} {cursor : String} :
    p.next = some cursor
      ↔ cursorHeader? p.answer = some cursor ∧ cursor ≠ "" ∧ isVisible cursor := by
  have hname : "cursor".toList.map Char.toLower = "cursor".toList := by decide
  simp only [next, Client.leadsOn, Answer.header?, cursorHeader?, hname, isVisible]
  cases p.answer.headers.find? fun h => h.1.toList.map Char.toLower == "cursor".toList with
  | none => simp
  | some h =>
      simp only [Option.map_some, List.all_eq_true, Bool.or_eq_true, beq_iff_eq, Bool.and_eq_true,
        decide_eq_true_eq, Option.some.injEq]
      split
      · rename_i hvisible
        simp only [Option.filter_some, bne_iff_ne, ne_eq, ite_not]
        split
        · rename_i hempty
          constructor
          · rintro ⟨⟩
          · rintro ⟨rfl, hne, -⟩
            exact absurd hempty hne
        · rename_i hne
          constructor
          · rintro ⟨⟩
            exact ⟨rfl, hne, hvisible⟩
          · rintro ⟨rfl, -⟩
            rfl
      · rename_i hvisible
        simp only [Option.filter_none, reduceCtorEq, false_iff, not_and]
        rintro rfl -
        exact hvisible

/-- A page comes with an answer. -/
lemma dropped_ne_reply (p : ServedPage) : .dropped ≠ p.reply := by
  intro hdropped
  have harrived := p.arrived
  rw [← hdropped] at harrived
  cases harrived

/-- The events of a page that is served have distinct names. -/
lemma distinct_events (p : ServedPage) : ∀ e ∈ p.page.events, Fields.Distinct e := by
  have hread := p.decoded
  rw [Answer.decode] at hread
  split at hread
  · rename_i page hpage
    cases hread
    obtain ⟨d, -, hd⟩ := Option.bind_eq_some_iff.mp hpage
    exact EventPage.distinct_of_read? hd
  · cases hread

end ServedPage

/-! ### Pages one after the other -/

/-- The next replies bring these pages, and requests can be delivered. -/
structure Network.Serves (n : Network) (c : Client) (pages : List ServedPage)
    (rest : List Reply) : Prop where
  reachable : n.reachable = true
  sendable : c.base.scheme = "http" ∨ c.base.scheme = "https"
  replies : n.replies = pages.map ServedPage.reply ++ rest

/-- The network after requests for the pages at these cursors, with the replies
that are left. -/
def Network.afterPages (n : Network) (c : Client) (cursors : List String) (rest : List Reply) :
    Network :=
  { n with
    replies := rest
    delivered := n.delivered ++ cursors.map fun cursor =>
      c.getRequest ["query", cursor, "events"] }

/-- What a reply to a request for a page comes to: a page that is served, or an error. -/
lemma Reply.outcome_readEvents_eq_ok_iff {path : String} {reply : Reply}
    {r : EventPage × Option String} :
    reply.outcome path Client.readEvents = .ok r
      ↔ ∃ p : ServedPage, reply = p.reply ∧ r = (p.page, p.answer.header? "cursor") := by
  constructor
  · intro h
    cases hanswer : reply.answer? with
    | none =>
        rw [outcome_of_none hanswer] at h
        cases h
    | some a =>
        rw [outcome_of_some hanswer] at h
        simp only [bind_eq_ok, Answer.check_eq_ok_iff, Client.readEvents, pure_eq_ok,
          Except.ok.injEq] at h
        obtain ⟨_, ⟨haccepted, rfl⟩, page, hdecode, rfl⟩ := h
        exact ⟨⟨reply, a, page, hanswer, haccepted, hdecode⟩, rfl, rfl⟩
  · rintro ⟨p, rfl, rfl⟩
    rw [outcome_of_some p.arrived]
    simp only [bind_eq_ok, Answer.check_eq_ok_iff, Client.readEvents, pure_eq_ok, Except.ok.injEq]
    exact ⟨p.answer, ⟨p.accepted, rfl⟩, p.page, p.decoded, rfl⟩

namespace Client

/-- A page that is served is what the request for it gives. -/
lemma eventPage_serves {c : Client} {n : Network} {p : ServedPage} {rest : List Reply}
    (h : n.Serves c [p] rest) (cursor : String) :
    c.eventPage cursor n
      = (.ok (p.page, p.answer.header? "cursor"), n.afterPages c [cursor] rest) := by
  have hreplies : n.replies = p.reply :: rest := h.replies
  rw [eventPage_eq h.reachable h.sendable, Network.nextReply, hreplies, List.headD_cons,
    Reply.outcome_readEvents_eq_ok_iff.mpr ⟨p, rfl, rfl⟩]
  rfl

/-- Anything else makes the request for a page fail. -/
lemma eventPage_fails {c : Client} {n : Network} (hreach : n.reachable = true)
    (hbase : c.base.scheme = "http" ∨ c.base.scheme = "https")
    (hpage : ∀ (p : ServedPage) rest, n.replies ≠ p.reply :: rest) (cursor : String) :
    ∃ e, c.eventPage cursor n = (.error e, n.afterPages c [cursor] n.replies.tail) := by
  rw [eventPage_eq hreach hbase]
  rcases houtcome : n.nextReply.outcome (c.eventRequest cursor).url.path.text readEvents with e | r
  · exact ⟨e, rfl⟩
  · obtain ⟨p, hreply, -⟩ := Reply.outcome_readEvents_eq_ok_iff.mp houtcome
    rcases hreplies : n.replies with _ | ⟨reply, rest⟩
    · -- what comes when no reply is left reports an error
      rw [Network.nextReply, hreplies] at hreply
      have harrived := p.arrived
      rw [← hreply] at harrived
      have haccepted := p.accepted
      rw [← Option.some.inj harrived] at haccepted
      exact absurd haccepted (by decide)
    · rw [Network.nextReply, hreplies] at hreply
      exact absurd (hreplies.trans (congrArg (· :: rest) hreply)) (hpage p rest)

/-- A request that cannot be delivered fails and leaves the network alone. -/
lemma eventPage_undelivered {c : Client} {n : Network}
    (h : ¬ (n.reachable = true ∧ (c.base.scheme = "http" ∨ c.base.scheme = "https")))
    (cursor : String) : c.eventPage cursor n = (.error (.http .send), n) := by
  have hscheme : (c.eventRequest cursor).url.scheme = c.base.scheme := c.scheme_request _ _ _
  refine (congrFun (c.eventPage_eq_ask cursor) n).trans ?_
  rw [Request.ask_eq, if_neg]
  rwa [Bool.and_eq_true, Request.isSendable_of_scheme hscheme]

/-- Only a page that is served is ever given. -/
lemma serves_of_eventPage {c : Client} {n n' : Network} {cursor : String}
    {r : EventPage × Option String} (h : c.eventPage cursor n = (.ok r, n')) :
    ∃ p rest, n.Serves c [p] rest := by
  by_cases hnet : n.reachable = true ∧ (c.base.scheme = "http" ∨ c.base.scheme = "https")
  · by_contra hnone
    obtain ⟨e, he⟩ := eventPage_fails hnet.1 hnet.2
      (fun p rest hreplies => hnone ⟨p, rest, hnet.1, hnet.2, hreplies⟩) cursor
    rw [he] at h
    cases h
  · rw [eventPage_undelivered hnet] at h
    cases h

end Client

/-! ### The loop over the pages -/

namespace Network

/-- The first page comes with the first reply, the others after it. -/
lemma Serves.split {n : Network} {c : Client} {p : ServedPage} {ps : List ServedPage}
    {rest : List Reply} (h : n.Serves c (p :: ps) rest) (cursor : String) :
    n.Serves c [p] (ps.map ServedPage.reply ++ rest) ∧
      (n.afterPages c [cursor] (ps.map ServedPage.reply ++ rest)).Serves c ps rest :=
  ⟨⟨h.reachable, h.sendable, h.replies⟩, ⟨h.reachable, h.sendable, rfl⟩⟩

lemma afterPages_afterPages (n : Network) (c : Client) (cursors others : List String)
    (rest rest' : List Reply) :
    (n.afterPages c cursors rest).afterPages c others rest'
      = n.afterPages c (cursors ++ others) rest' := by
  simp [afterPages]

end Network

namespace Client

lemma groupsFrom_of_page {c : Client} {cursor : String} {groups : Groups} {n n' : Network}
    {page : EventPage} {next : Option String} (h : c.eventPage cursor n = (.ok (page, next), n')) :
    c.groupsFrom cursor groups n = match leadsOn next with
      | none => (.ok (groups.addPage page), n')
      | some next => c.groupsFrom next (groups.addPage page) n' := by
  rw [groupsFrom]
  split
  · rename_i e m he
    rw [h] at he
    cases he
  · rename_i page' next' m he
    rw [h] at he
    cases he
    cases leadsOn next <;> rfl

lemma groupsFrom_of_error {c : Client} {cursor : String} {groups : Groups} {n n' : Network}
    {e : ClientError} (h : c.eventPage cursor n = (.error e, n')) :
    c.groupsFrom cursor groups n = (.error e, n') := by
  rw [groupsFrom]
  split
  · rename_i e m he
    rw [h] at he
    cases he
    rfl
  · rename_i page' next' m he
    rw [h] at he
    cases he

/-- Pages that lead on are added to the groups, and the loop goes on after them. -/
lemma groupsFrom_cons {c : Client} {p : ServedPage} {cursor next : String} {groups : Groups}
    {n : Network} {ps : List ServedPage} {rest : List Reply} (h : n.Serves c (p :: ps) rest)
    (hnext : p.next = some next) :
    c.groupsFrom cursor groups n = c.groupsFrom next (groups.addPage p.page)
      (n.afterPages c [cursor] (ps.map ServedPage.reply ++ rest)) := by
  rw [groupsFrom_of_page (eventPage_serves (h.split cursor).1 cursor), ← ServedPage.next, hnext]

/-- **The loop over pages that are served** adds them all to the groups and ends at
the first one that does not lead on. -/
lemma groupsFrom_serves {c : Client} {last : ServedPage} {rest : List Reply}
    (hlast : last.next = none) (served : List ServedPage) :
    ∀ {n : Network} (cursor : String) (groups : Groups), n.Serves c (served ++ [last]) rest →
      (∀ p ∈ served, p.next ≠ none) →
      c.groupsFrom cursor groups n
        = (.ok (((served ++ [last]).map ServedPage.page).foldl Groups.addPage groups),
          n.afterPages c (cursor :: served.filterMap ServedPage.next) rest) := by
  induction served with
  | nil =>
      intro n cursor groups h _
      rw [groupsFrom_of_page (eventPage_serves h cursor), ← ServedPage.next, hlast]
      rfl
  | cons p served ih =>
      intro n cursor groups h hnext
      obtain ⟨hp, hserved⟩ := List.forall_mem_cons.mp hnext
      obtain ⟨next, hcursor⟩ := Option.ne_none_iff_exists'.mp hp
      rw [List.cons_append] at h
      rw [groupsFrom_cons h hcursor, ih next _ (h.split cursor).2 hserved,
        Network.afterPages_afterPages, List.filterMap_cons_some hcursor]
      rfl

/-- **The loop fails if a page does**, with one request for each page so far and
one more. -/
lemma groupsFrom_fails {c : Client} {rest : List Reply}
    (hrest : ∀ (p : ServedPage) rest', rest ≠ p.reply :: rest')
    (served : List ServedPage) :
    ∀ {n : Network} (cursor : String) (groups : Groups), n.Serves c served rest →
      (∀ p ∈ served, p.next ≠ none) →
      ∃ e, c.groupsFrom cursor groups n
        = (.error e, n.afterPages c (cursor :: served.filterMap ServedPage.next) rest.tail) := by
  induction served with
  | nil =>
      intro n cursor groups h _
      have hreplies : n.replies = rest := h.replies
      obtain ⟨e, he⟩ := eventPage_fails h.reachable h.sendable (hreplies ▸ hrest) cursor
      exact ⟨e, by rw [groupsFrom_of_error he, hreplies]; rfl⟩
  | cons p served ih =>
      intro n cursor groups h hnext
      obtain ⟨hp, hserved⟩ := List.forall_mem_cons.mp hnext
      obtain ⟨next, hcursor⟩ := Option.ne_none_iff_exists'.mp hp
      obtain ⟨e, he⟩ := ih next (groups.addPage p.page) (h.split cursor).2 hserved
      refine ⟨e, ?_⟩
      rw [groupsFrom_cons h hcursor, he, Network.afterPages_afterPages,
        List.filterMap_cons_some hcursor]
      rfl

/-- Groups come out of the loop only after pages of which just the last one does
not lead on. -/
lemma serves_of_groupsFrom {c : Client} (replies : List Reply) :
    ∀ {n n' : Network} {cursor : String} {groups result : Groups}, n.replies = replies →
      c.groupsFrom cursor groups n = (.ok result, n') →
      ∃ served last rest, n.Serves c (served ++ [last]) rest ∧
        (∀ p ∈ served, p.next ≠ none) ∧ last.next = none := by
  induction replies with
  | nil =>
      intro n n' cursor groups result hreplies h
      rcases hpage : c.eventPage cursor n with ⟨e | r, m⟩
      · rw [groupsFrom_of_error hpage] at h
        cases h
      · obtain ⟨p, rest, hp⟩ := serves_of_eventPage hpage
        rw [hp.replies] at hreplies
        cases hreplies
  | cons reply replies ih =>
      intro n n' cursor groups result hreplies h
      rcases hpage : c.eventPage cursor n with ⟨e | r, m⟩
      · rw [groupsFrom_of_error hpage] at h
        cases h
      · obtain ⟨p, rest, hp⟩ := serves_of_eventPage hpage
        cases hnext : p.next with
        | none => exact ⟨[], p, rest, hp, List.forall_mem_nil _, hnext⟩
        | some next =>
            have hrest : rest = replies := by
              have htail := hp.replies.symm.trans hreplies
              exact (List.cons.inj htail).2
            rw [groupsFrom_cons hp hnext] at h
            obtain ⟨served, last, rest', hserves, hserved, hlast⟩ := ih hrest h
            refine ⟨p :: served, last, rest', ⟨hp.reachable, hp.sendable, ?_⟩, ?_, hlast⟩
            · have hlater : rest = (served ++ [last]).map ServedPage.reply ++ rest' :=
                hserves.replies
              rw [hp.replies, hlater]
              rfl
            · rw [List.forall_mem_cons]
              exact ⟨by rw [hnext]; exact Option.some_ne_none _, hserved⟩

end Client

/-- **A slice holds the events of all pages served, grouped by stream.** -/
theorem slice_groups_events (h : Handle) (cursor : String) (start stop : Instant) (n : Network) :
    (∀ served last rest, n.Serves h.client (served ++ [last]) rest →
      (∀ p ∈ served, p.next ≠ none) → last.next = none →
      let pages := (served ++ [last]).map ServedPage.page
      ∃ streams, h.slice cursor start stop n = (.ok ⟨start, stop, streams⟩,
          n.afterPages h.client
            (sliceCursor cursor start stop :: served.filterMap ServedPage.next) rest) ∧
        List.Forall₂ (fun hash (g : StreamEvents) =>
          descriptor? hash pages = some g.stream ∧ g.events = arrivals hash pages)
          (announced pages) streams) ∧
    (∀ served rest, n.Serves h.client served rest → (∀ p ∈ served, p.next ≠ none) →
      (∀ (p : ServedPage) rest', rest ≠ p.reply :: rest') →
      ∃ e, h.slice cursor start stop n = (.error e, n.afterPages h.client
        (sliceCursor cursor start stop :: served.filterMap ServedPage.next) rest.tail)) ∧
    (∀ s n', h.slice cursor start stop n = (.ok s, n') →
      ∃ served last rest, n.Serves h.client (served ++ [last]) rest ∧
        (∀ p ∈ served, p.next ≠ none) ∧ last.next = none) ∧
    ∀ (p : ServedPage) next, p.next = some next ↔ ServedPage.cursorHeader? p.answer = some next ∧
      next ≠ "" ∧ ServedPage.isVisible next := by
  refine ⟨?_, ?_, ?_, fun p next => ServedPage.next_eq_some_iff⟩
  · intro served last rest hserves hserved hlast pages
    have hgroups := Client.groupsFrom_serves hlast served (sliceCursor cursor start stop) []
      hserves hserved
    have hdistinct : ∀ page ∈ pages, ∀ e ∈ page.events, Fields.Distinct e := by
      intro page hpage
      obtain ⟨p, -, rfl⟩ := List.mem_map.mp hpage
      exact p.distinct_events
    have hcollects := Groups.collects_nil.addPages hdistinct
    exact ⟨_, Handle.slice_eq hgroups, hcollects.streams⟩
  · intro served rest hserves hserved hrest
    obtain ⟨e, he⟩ := Client.groupsFrom_fails hrest served (sliceCursor cursor start stop) []
      hserves hserved
    exact ⟨e, Handle.slice_eq he⟩
  · intro s n' hslice
    rcases hgroups : h.client.groupsFrom (sliceCursor cursor start stop) [] n with ⟨e | groups, m⟩
    · rw [Handle.slice_eq hgroups] at hslice
      cases hslice
    · exact Client.serves_of_groupsFrom n.replies rfl hgroups

/-- A page with an event whose stream the next page announces. -/
def earlyEvents : EventPage :=
  ⟨[("a", .integer 1)], [[("stream", .string "b")], [("stream", .string "a"), ("x", .bool true)]]⟩

/-- Its text. -/
def earlyText : String :=
  "\x7b\"streams\":\x7b\"a\":1\x7d,\"events\":[\x7b\"stream\":\"b\"\x7d," ++
    "\x7b\"stream\":\"a\",\"x\":true\x7d]\x7d"

lemma earlyText_read :
    (Document.read? earlyText).bind (EventPage.read? Document.maxNesting) = some earlyEvents := by
  have hone : RawNumber.value? ⟨false, ['1'], [], none⟩ = some (.integer 1) := by decide
  have htext : Document.read? earlyText = some (.object [
      (.ofString "streams", .object [(.ofString "a", .number ⟨false, ['1'], [], none⟩)]),
      (.ofString "events", .array [.object [(.ofString "stream", .string (.ofString "b"))],
        .object [(.ofString "stream", .string (.ofString "a")), (.ofString "x", .bool true)]])]) := by
    rfl
  rw [htext, Option.bind_some]
  refine EventPage.read?_object ?_ (by rfl)
  simp only [Document.maxNesting, Nat.reduceSub, Document.object?, Document.value?,
    Document.memberValues?, hone]
  rfl

/-- An answer with this page. -/
def earlyPage : ServedPage where
  reply := .answer ⟨200, [("Cursor", "next")], earlyText⟩
  answer := ⟨200, [("Cursor", "next")], earlyText⟩
  page := earlyEvents
  arrived := rfl
  accepted := by decide
  decoded := Answer.decode_eq_ok rfl earlyText_read

/-- A page that announces a stream again, with an event marked by no hash. -/
def lateEvents : EventPage :=
  ⟨[("b", .null), ("a", .integer 2)],
    [[("stream", .integer 7)], [("y", .integer 1), ("stream", .string "b")]]⟩

/-- Its text. -/
def lateText : String :=
  "\x7b\"streams\":\x7b\"b\":null,\"a\":2\x7d,\"events\":[\x7b\"stream\":7\x7d," ++
    "\x7b\"y\":1,\"stream\":\"b\"\x7d]\x7d"

lemma lateText_read :
    (Document.read? lateText).bind (EventPage.read? Document.maxNesting) = some lateEvents := by
  have hone : RawNumber.value? ⟨false, ['1'], [], none⟩ = some (.integer 1) := by decide
  have htwo : RawNumber.value? ⟨false, ['2'], [], none⟩ = some (.integer 2) := by decide
  have hseven : RawNumber.value? ⟨false, ['7'], [], none⟩ = some (.integer 7) := by decide
  have htext : Document.read? lateText = some (.object [
      (.ofString "streams", .object [(.ofString "b", .null),
        (.ofString "a", .number ⟨false, ['2'], [], none⟩)]),
      (.ofString "events", .array [
        .object [(.ofString "stream", .number ⟨false, ['7'], [], none⟩)],
        .object [(.ofString "y", .number ⟨false, ['1'], [], none⟩),
          (.ofString "stream", .string (.ofString "b"))]])]) := by
    rfl
  rw [htext, Option.bind_some]
  refine EventPage.read?_object ?_ ?_
  · simp only [Document.maxNesting, Nat.reduceSub, Document.object?, Document.value?,
      Document.memberValues?, htwo]
    rfl
  · simp only [Document.maxNesting, Nat.reduceSub, Document.list?, List.mapM_cons,
      Document.object?, Document.value?, Document.memberValues?, hone, hseven]
    rfl

/-- An answer with this page, to which the service has redirected the request. -/
def latePage : ServedPage where
  reply := .redirected "/pages/2" ⟨200, [], lateText⟩
  answer := ⟨200, [], lateText⟩
  page := lateEvents
  arrived := rfl
  accepted := by decide
  decoded := Answer.decode_eq_ok rfl lateText_read

/-- A handle of a query on this machine. -/
def localHandle : Handle :=
  ⟨⟨⟨"key", "http://localhost", ⟨.double⟩⟩, ⟨"http", none, .segments [], none⟩⟩, "q", none, none⟩

theorem latePage_sliced :
    (∃ n', localHandle.slice "q" .earliest .latest
        (.ofReplies [earlyPage.reply, latePage.reply])
        = (.ok ⟨.earliest, .latest, [⟨.integer 1, [[("x", .bool true)]]⟩,
            ⟨.null, [[("y", .integer 1)]]⟩]⟩, n') ∧ n'.delivered.length = 2) ∧
      ∃ e n', localHandle.slice "q" .earliest .latest
        (.ofReplies [earlyPage.reply, .dropped]) = (.error e, n') := by
  have hnext : earlyPage.next = some "next" := by decide
  have hearly : ∀ p ∈ [earlyPage], p.next ≠ none := by simp [hnext]
  have hlate : latePage.next = none := by decide
  constructor
  · obtain ⟨hserves, -⟩ := slice_groups_events localHandle "q" .earliest .latest
      (.ofReplies [earlyPage.reply, latePage.reply])
    obtain ⟨streams, hslice, hgroups⟩ := hserves [earlyPage] latePage []
      ⟨rfl, .inl rfl, rfl⟩ hearly hlate
    have hannounced : announced [earlyPage.page, latePage.page] = ["a", "b"] := by decide
    have hstreams : streams
        = [⟨.integer 1, [[("x", .bool true)]]⟩, ⟨.null, [[("y", .integer 1)]]⟩] := by
      rw [List.map_append, List.map_singleton, List.map_singleton, List.singleton_append,
        hannounced] at hgroups
      rcases hgroups with _ | ⟨⟨ha, ha'⟩, _ | ⟨⟨hb, hb'⟩, _ | _⟩⟩
      rename_i a b
      obtain ⟨d, es⟩ := a
      obtain ⟨d', es'⟩ := b
      cases ha
      cases hb
      cases ha'
      cases hb'
      rfl
    exact ⟨_, hstreams ▸ hslice, rfl⟩
  · obtain ⟨-, hfails, -⟩ := slice_groups_events localHandle "q" .earliest .latest
      (.ofReplies [earlyPage.reply, .dropped])
    obtain ⟨e, he⟩ := hfails [earlyPage] [.dropped] ⟨rfl, .inl rfl, rfl⟩ hearly
      fun p _ hreplies => p.dropped_ne_reply (List.cons.inj hreplies).1
    exact ⟨e, _, he⟩

end EventQuery
