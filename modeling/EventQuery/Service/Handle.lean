import EventQuery.Query
import EventQuery.Service.Client

/-!
Queries that were submitted, and their results.

A handle is what the service gives out for a query. Results come in pages, each
with a cursor to the next.

* `Client.spansFrom` collects pages of spans until the cursors end or a limit is
  reached; more than the limit is cut off.
* `Client.groupsFrom` collects pages of events until the cursors end.
* `Handle.spans` keeps the spans once they have been fetched as a whole; a fetch
  that fails leaves nothing behind.
-/

namespace EventQuery

/-- A query that the service has accepted. -/
structure Handle where
  client : Client
  id : String
  limit : Option Nat
  /-- The spans, once they have been fetched. -/
  cached : Option (List Span)
deriving Repr

/-! ### Submitting -/

namespace Client

/-- Sends the request of a query. A query is accepted with one status only. -/
def submit (c : Client) (r : Request) (limit : Option Nat) : Action Network Handle := do
  let a ← r.ask
  if a.status ≠ 201 then Action.fail (.api a.status a.message)
  else match a.header? "location" with
    | some id => return ⟨c, id, limit, none⟩
    | none => Action.fail (.missingHeader "location")

/-- Submits a query, written under the options of the client. One that cannot be
written is not sent. -/
def query (c : Client) (q : Query) (limit : Option Nat) : Action Network Handle :=
  match q.text 0 c.config.options with
  | .error e => Action.fail (.query e)
  | .ok text => c.submit (c.request .post ["query"] text) limit

/-- The request of a query in its text form. -/
def textRequest (c : Client) (text : String) : Request :=
  { c.request .post ["query"] text with
    headers := [("auth-key", c.config.authKey), ("content-type", textType)] }

/-- Submits a query in its text form. -/
def queryText (c : Client) (text : String) (limit : Option Nat) : Action Network Handle :=
  c.submit (c.textRequest text) limit

/-! ### Pages of spans -/

/-- A cursor that leads on: one that is there and not empty. -/
def leadsOn (cursor : Option String) : Option String := cursor.filter (· != "")

/-- The request for a page of spans. -/
def spanRequest (c : Client) (cursor : String) (limit : Option Nat) : Request :=
  let r := c.getRequest ["query", cursor, "spans"]
  { r with url := r.url.addQuery (limit.map fun n => ("limit", integerText n)).toList }

/-- One page of spans. -/
def spanPage (c : Client) (cursor : String) (limit : Option Nat) : Action Network SpanPage := do
  let a ← (c.spanRequest cursor limit).ask
  Action.ofExcept (a.decode SpanPage.read?)

/-- A page of spans uses up a reply. -/
theorem spanPage_shorter {c : Client} {cursor : String} {limit : Option Nat} {n n' : Network}
    {page : SpanPage} (h : c.spanPage cursor limit n = (.ok page, n')) :
    n'.replies.length < n.replies.length := by
  simp only [spanPage, Action.bind_apply, Action.ofExcept] at h
  split at h
  · rename_i ha
    simp only [Prod.mk.injEq] at h
    exact h.2 ▸ Request.ask_shorter ha
  · simp at h

/-- The spans of the page at a cursor and of the pages after it, behind those
already found. -/
def spansFrom (c : Client) (limit : Option Nat) (cursor : String) (found : List Span)
    (n : Network) : Except ClientError (List Span) × Network :=
  match _h : c.spanPage cursor limit n with
  | (.error e, n') => (.error e, n')
  | (.ok page, n') =>
    let found := found ++ page.spans
    match limit.filter (· ≤ found.length), leadsOn page.next with
    | some most, _ => (.ok (found.take most), n')
    | none, none => (.ok found, n')
    | none, some next => spansFrom c limit next found n'
termination_by n.replies.length
decreasing_by exact spanPage_shorter _h

/-! ### Pages of events -/

/-- One page of events, and the cursor to the next. -/
def eventPage (c : Client) (cursor : String) : Action Network (EventPage × Option String) := do
  let a ← (c.getRequest ["query", cursor, "events"]).ask
  let page ← Action.ofExcept (a.decode (EventPage.read? Document.maxNesting))
  return (page, a.header? "cursor")

/-- A page of events uses up a reply. -/
theorem eventPage_shorter {c : Client} {cursor : String} {n n' : Network}
    {page : EventPage × Option String} (h : c.eventPage cursor n = (.ok page, n')) :
    n'.replies.length < n.replies.length := by
  simp only [eventPage, Action.bind_apply, Action.ofExcept] at h
  split at h
  · rename_i ha
    split at h
    · rename_i hp
      simp only [pure, Prod.mk.injEq] at h hp
      exact h.2 ▸ hp.2 ▸ Request.ask_shorter ha
    · simp at h
  · simp at h

/-- The events of the page at a cursor and of the pages after it, added to
groups. -/
def groupsFrom (c : Client) (cursor : String) (groups : Groups) (n : Network) :
    Except ClientError Groups × Network :=
  match _h : c.eventPage cursor n with
  | (.error e, n') => (.error e, n')
  | (.ok (page, next), n') =>
    let groups := groups.addPage page
    match leadsOn next with
    | none => (.ok groups, n')
    | some next => groupsFrom c next groups n'
termination_by n.replies.length
decreasing_by exact eventPage_shorter _h

end Client

/-! ### Slices -/

/-- The cursor to the events of a query between two instants: bounds that are on
the cursor already give way. -/
def sliceCursor (cursor : String) (start stop : Instant) : String :=
  String.ofList (cursor.toList.takeWhile (· != '+')) ++ "+" ++ start.isoText ++ "+" ++ stop.isoText

/-- Stands in for a start that is missing: the beginning of the year 1. -/
def Instant.earliest : Instant :=
  ⟨-719162, 0, 0, by decide, by decide, by decide, by decide, by decide⟩

/-- Stands in for an end that is missing: the end of the year 9990. -/
def Instant.latest : Instant :=
  ⟨2929609, 86399, 0, by decide, by decide, by decide, by decide, by decide⟩

namespace Handle

/-- The events between two instants of the query behind a cursor. -/
def slice (h : Handle) (cursor : String) (start stop : Instant) : Action Network Slice := do
  let groups ← h.client.groupsFrom (sliceCursor cursor start stop) []
  return ⟨start, stop, groups.map Prod.snd⟩

/-- The slice of a span, with stand-ins for ends that are missing. -/
def sliceOf (h : Handle) (s : Span) : Action Network Slice :=
  h.slice s.cursor (s.start.getD .earliest) (s.stop.getD .latest)

/-- The slices of spans, one after the other. -/
def slicesOf (h : Handle) : List Span → Action Network (List Slice)
  | [] => pure []
  | s :: rest => do
    let slice ← h.sliceOf s
    let slices ← h.slicesOf rest
    return slice :: slices

end Handle

/-! ### Results of a handle -/

/-- A handle in use: what it keeps, and the network. -/
structure Retrieval where
  handle : Handle
  network : Network
deriving Repr

namespace Retrieval

/-- The spans of a query. They are fetched when they are first asked for. -/
def spans : Action Retrieval (List Span) := fun r =>
  match r.handle.cached with
  | some spans => (.ok spans, r)
  | none =>
    match r.handle.client.spansFrom r.handle.limit r.handle.id [] r.network with
    | (.ok spans, network) => (.ok spans, ⟨{ r.handle with cached := some spans }, network⟩)
    | (.error e, network) => (.error e, ⟨r.handle, network⟩)

/-- The statistics of the spans of a query. -/
def stats : Action Retrieval (Option SpanStats) := do
  return SpanStats.ofSpans? (← spans)

/-- The events between two instants of the query behind a cursor. -/
def slice (cursor : String) (start stop : Instant) : Action Retrieval Slice := fun r =>
  let (result, network) := r.handle.slice cursor start stop r.network
  (result, { r with network })

/-- The slices of the spans of a query. -/
def slices : Action Retrieval (List Slice) := do
  let found ← spans
  fun r =>
    let (result, network) := r.handle.slicesOf found r.network
    (result, { r with network })

/-- The slices of the spans of a query as a text, indented by two. -/
def json : Action Retrieval String := do
  return Json.text 2 (.array ((← slices).map Slice.encode))

end Retrieval

end EventQuery
