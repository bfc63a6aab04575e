import EventQuery.Proofs.Json.Rendering
import EventQuery.Proofs.Service.Bodies
import EventQuery.Proofs.Service.Dialogue
import EventQuery.Proofs.Span.Session

/-!
Every call heeds the replies to its requests.

* `ClientCall`: a call of a client that makes one request, `ClientCall.asks`: what it makes of
  the answer.
* `Submission`: a query that is handed in, in either form; `Submission.asks`.
* `Client.heeds_spansFrom`, `Client.heeds_groupsFrom`, `Handle.heeds_slicesOf`: the loops over
  pages and over spans.
* `ResultCall.exists_dialogue`: a call on the results of a query.
* `calls_heed_replies`: all of these, together with what the statuses tell and what the text of
  a body is; `refusals_told_otherwise`: what a message then is not.
-/

namespace EventQuery

variable {α β : Type}

/-! ### Calls of a client -/

/-- A call of a client that makes one request. -/
inductive ClientCall where
  | ping
  | streams (name : String) (wanted : Object)
  | fields (stream : String)
  | values (stream : String)
  | describe (stream : String)
  | destroy (stream : String)
  | newest (stream : String)
  | oldest (stream : String)
  | event (stream id : String)
  | putEvent (stream : String) (stored : Json) (id : Option String) (time : Option Instant)
  | deleteEvent (stream id : String)
  | range (stream : String) (start stop : Instant)
  | stats (stream field : String) (start stop : Option Instant)
  | fieldStats (stream : String) (field : FieldEntry) (start stop : Option Instant)
  | spanPage (cursor : String) (limit : Option Nat)
  | eventPage (cursor : String)

namespace ClientCall

/-- What a call gives. -/
def Result : ClientCall → Type
  | ping | destroy _ | deleteEvent .. => Unit
  | streams .. => List String
  | fields _ => List FieldEntry
  | values _ => List FieldValue
  | describe _ | stats .. | fieldStats .. => Json
  | newest _ | oldest _ | event .. => StoredEvent
  | putEvent .. => String
  | range .. => List RangeEvent
  | spanPage .. => SpanPage
  | eventPage _ => EventPage × Option String

/-- What a call does. -/
def run (c : Client) : (call : ClientCall) → Action Network call.Result
  | ping => c.ping
  | streams name wanted => c.streams name wanted
  | fields stream => c.fields stream
  | values stream => c.values stream
  | describe stream => c.describe stream
  | destroy stream => c.destroy stream
  | newest stream => c.newest stream
  | oldest stream => c.oldest stream
  | event stream id => c.event stream id
  | putEvent stream stored id time => c.putEvent stream stored id time
  | deleteEvent stream id => c.deleteEvent stream id
  | range stream start stop => c.range stream start stop
  | stats stream field start stop => c.stats stream field start stop
  | fieldStats stream field start stop => c.fieldStats stream field start stop
  | spanPage cursor limit => c.spanPage cursor limit
  | eventPage cursor => c.eventPage cursor

/-- The request for the statistics of a field. -/
def statsRequest (c : Client) (stream field : String) (start stop : Option Instant) : Request :=
  let r := c.getRequest ["streams", stream, "fields", field, "stats"]
  { r with url := r.url.addQuery (Client.boundFields start stop) }

/-- The one request of a call. -/
def request (c : Client) : ClientCall → Request
  | ping => c.getRequest []
  | streams .. => c.getRequest ["streams"]
  | fields stream => c.getRequest ["streams", stream, "fields"]
  | values stream => c.getRequest ["streams", stream, "values"]
  | describe stream => c.getRequest ["streams", stream]
  | destroy stream => c.request .delete ["streams", stream] ""
  | newest stream => c.getRequest ["streams", stream, "newest"]
  | oldest stream => c.getRequest ["streams", stream, "oldest"]
  | event stream id => c.getRequest ["streams", stream, "events", id]
  | putEvent stream stored id time => c.putRequest stream stored id time
  | deleteEvent stream id => c.request .delete ["streams", stream, "events", id] ""
  | range stream start stop =>
      c.getRequest ["streams", stream, "start", start.isoText, "end", stop.isoText]
  | stats stream field start stop => statsRequest c stream field start stop
  | fieldStats stream field start stop => statsRequest c stream field.qualified start stop
  | spanPage cursor limit => c.spanRequest cursor limit
  | eventPage cursor => c.eventRequest cursor

end ClientCall

namespace Client

variable (c : Client)

lemma asks_fetch (segments : List String) (read : Document → Option α) :
    (c.fetch segments read).Asks (c.getRequest segments) (Answer.decode read) := rfl

/-- The time that comes with an event. -/
def readTime (a : Answer) : Except ClientError (Option Instant) :=
  match a.header? "timestamp" with
  | some given => (readTimestamp given).map some
  | none => .ok none

/-- What is made of an answer with an event. -/
def readEvent (a : Answer) : Except ClientError StoredEvent := do
  let time ← readTime a
  let event ← a.decode readValue
  return ⟨a.header? "location", time, event⟩

lemma asks_eventAt (segments : List String) :
    (c.eventAt segments).Asks (c.getRequest segments) readEvent := by
  rw [Action.Asks, eventAt]
  congr 1
  funext a n
  rw [readEvent, readTime]
  cases a.header? "timestamp" with
  | none => cases a.decode readValue <;> rfl
  | some given =>
      dsimp only
      cases readTimestamp given <;> cases a.decode readValue <;> rfl

lemma isTame_readEvent (a : Answer) : IsTame (readEvent a) := by
  refine IsTame.bind ?_ fun time => (IsTame.decode readValue a).bind fun event => .ok _
  rw [readTime]
  split
  · refine IsTame.map ?_ some
    rw [readTimestamp]
    split
    · exact .ok _
    · exact .error rfl
  · exact .ok none

/-- What is made of an answer to an event that is stored. -/
def readStored : Option String → Answer → Except ClientError String
  | some id, _ => .ok id
  | none, a =>
    match a.header? "location" with
    | some location => .ok location
    | none => .error (.missingHeader "location")

lemma asks_putEvent (stream : String) (stored : Json) (id : Option String)
    (time : Option Instant) : (c.putEvent stream stored id time).Asks
      (c.putRequest stream stored id time) (readStored id) := by
  rw [Action.Asks, putEvent]
  congr 1
  funext a n
  cases id with
  | some id => rfl
  | none =>
      rw [readStored]
      cases a.header? "location" <;> rfl

lemma isTame_readStored (id : Option String) (a : Answer) : IsTame (readStored id a) := by
  cases id with
  | some id => exact .ok id
  | none =>
      rw [readStored]
      split
      · exact .ok _
      · exact .error rfl

lemma isTame_readEvents (a : Answer) : IsTame (readEvents a) :=
  (IsTame.decode _ a).bind fun _ => .ok _

end Client

/-- **A call makes one request**, and nothing that it makes of an answer tells a status. -/
lemma ClientCall.asks (c : Client) (call : ClientCall) :
    ∃ use, (call.run c).Asks (call.request c) use ∧ ∀ a, IsTame (use a) := by
  cases call with
  | ping => exact ⟨_, rfl, fun a => .ok ()⟩
  | streams => exact ⟨_, (c.asks_fetch _ _).map _, fun a => (IsTame.decode _ a).map _⟩
  | fields => exact ⟨_, c.asks_fetch _ _, IsTame.decode _⟩
  | values => exact ⟨_, c.asks_fetch _ _, IsTame.decode _⟩
  | describe => exact ⟨_, c.asks_fetch _ _, IsTame.decode _⟩
  | destroy => exact ⟨_, rfl, fun a => .ok ()⟩
  | newest => exact ⟨_, c.asks_eventAt _, Client.isTame_readEvent⟩
  | oldest => exact ⟨_, c.asks_eventAt _, Client.isTame_readEvent⟩
  | event => exact ⟨_, c.asks_eventAt _, Client.isTame_readEvent⟩
  | putEvent => exact ⟨_, c.asks_putEvent _ _ _ _, Client.isTame_readStored _⟩
  | deleteEvent => exact ⟨_, rfl, fun a => .ok ()⟩
  | range => exact ⟨_, c.asks_fetch _ _, IsTame.decode _⟩
  | stats => exact ⟨_, rfl, IsTame.decode _⟩
  | fieldStats => exact ⟨_, rfl, IsTame.decode _⟩
  | spanPage => exact ⟨_, rfl, IsTame.decode _⟩
  | eventPage => exact ⟨_, c.eventPage_eq_ask _, Client.isTame_readEvents⟩

lemma ClientCall.scheme_statsRequest (c : Client) (stream field : String)
    (start stop : Option Instant) :
    (statsRequest c stream field start stop).url.scheme = c.base.scheme := by
  rw [← c.scheme_request .get ["streams", stream, "fields", field, "stats"] ""]
  cases start <;> cases stop <;> rfl

lemma ClientCall.scheme_request (c : Client) (call : ClientCall) :
    (call.request c).url.scheme = c.base.scheme := by
  cases call with
  | putEvent stream stored id time =>
      cases id with
      | some id =>
          cases time <;>
            exact c.scheme_request .put ["streams", stream, "events", id] stored.compact
      | none =>
          cases time <;> exact c.scheme_request .post ["streams", stream, "events"] stored.compact
  | stats stream field start stop => exact scheme_statsRequest c stream field start stop
  | fieldStats stream field start stop =>
      exact scheme_statsRequest c stream field.qualified start stop
  | spanPage cursor limit => exact c.scheme_spanRequest cursor limit
  | _ => exact c.scheme_request _ _ _

/-! ### Queries that are handed in -/

/-- A query that is handed in, built or written, with a limit for its spans. -/
inductive Submission where
  | built (q : Query) (limit : Option Nat)
  | written (text : String) (limit : Option Nat)

namespace Submission

/-- What handing in does. -/
def run (c : Client) : Submission → Action Network Handle
  | built q limit => c.query q limit
  | written text limit => c.queryText text limit

/-- The limit for the spans. -/
def limit : Submission → Option Nat
  | built _ limit | written _ limit => limit

/-- The request of a query, if the query can be written. -/
def request (c : Client) : Submission → Except QueryError Request
  | built q _ => do return c.request .post ["query"] (← q.text 0 c.config.options)
  | written text _ => .ok (c.textRequest text)

end Submission

/-- What is made of an answer to a query. -/
def Client.readHandle (c : Client) (limit : Option Nat) (a : Answer) :
    Except ClientError Handle :=
  if a.status ≠ 201 then .error (.api a.status a.message)
  else match a.header? "location" with
    | some id => .ok ⟨c, id, limit, none⟩
    | none => .error (.missingHeader "location")

lemma Client.asks_submit (c : Client) (r : Request) (limit : Option Nat) :
    (c.submit r limit).Asks r (c.readHandle limit) := by
  rw [Action.Asks, submit]
  congr 1
  funext a n
  rw [readHandle]
  split_ifs with hstatus
  · rfl
  · cases a.header? "location" <;> rfl

lemma Client.readHandle_eq_ok_iff {c : Client} {limit : Option Nat} {a : Answer} {h : Handle} :
    c.readHandle limit a = .ok h ↔
      a.status = 201 ∧ ∃ id, a.header? "location" = some id ∧ h = ⟨c, id, limit, none⟩ := by
  rw [readHandle]
  split_ifs with hstatus
  · simp [hstatus]
  · rw [not_not] at hstatus
    cases a.header? "location" with
    | none => simp
    | some id => simp [hstatus, eq_comm]

namespace Submission

variable {c : Client} {s : Submission} {r : Request}

lemma run_eq (c : Client) (s : Submission) : s.run c =
    match s.request c with
    | .error e => Action.fail (.query e)
    | .ok r => c.submit r s.limit := by
  cases s with
  | written text limit => rfl
  | built q limit =>
      simp only [run, Client.query, request]
      cases q.text 0 c.config.options <;> rfl

lemma run_of_request (h : s.request c = .ok r) : s.run c = c.submit r s.limit := by
  rw [run_eq, h]

/-- A query that cannot be written is not sent. -/
lemma run_of_error {e : QueryError} (h : s.request c = .error e) (n : Network) :
    s.run c n = (.error (.query e), n) := by
  rw [run_eq, h]
  rfl

lemma scheme_request (h : s.request c = .ok r) : r.url.scheme = c.base.scheme := by
  cases s with
  | written text limit =>
      cases h
      exact c.scheme_request .post ["query"] text
  | built q limit =>
      obtain ⟨text, -, h⟩ := bind_eq_ok.mp h
      cases h
      exact c.scheme_request .post ["query"] text

/-- **The request of a query heeds its reply**, also one that reports no error and does not
accept the query. -/
lemma dialogue (h : s.request c = .ok r) (n : Network) :
    Dialogue Request.RefusedBy n (n.exchange r) (s.run c n) := by
  rw [run_of_request h]
  refine (c.asks_submit r s.limit).dialogue ?_ ?_ n
  · rintro reply e (hfailed | ⟨hanswer, hstatus, hother, hsays⟩)
    · exact Reply.outcome_eq_error hfailed
    · rw [Reply.outcome_eq_use hanswer hstatus, Client.readHandle, if_pos hother,
        Answer.says_iff.mp hsays]
  · intro reply e he hreport
    rcases Reply.outcome_eq_error_iff.mp he with hfailed | ⟨a, hanswer, hstatus, huse⟩
    · exact .failed hfailed
    · rw [Client.readHandle] at huse
      split_ifs at huse with hother
      · cases huse
        exact .unaccepted hanswer hstatus hother (Answer.says_iff.mpr rfl)
      · split at huse <;> cases huse
        cases hreport

/-- A handle is given out for an answer that accepts the query, and only for that. -/
lemma run_eq_ok_iff (h : s.request c = .ok r) {n : Network} {handle : Handle} :
    (s.run c n).1 = .ok handle ↔ ∃ reply a id, n.exchange r = [(r, reply)] ∧
      reply.answer? = some a ∧ a.status = 201 ∧ a.header? "location" = some id ∧
      handle = ⟨c, id, s.limit, none⟩ := by
  rw [run_of_request h, (c.asks_submit r s.limit).apply, Network.exchange]
  split
  · constructor
    · intro hok
      cases hanswer : n.nextReply.answer? with
      | none =>
          rw [Reply.outcome_of_none hanswer] at hok
          cases hok
      | some a =>
          rw [Reply.outcome_of_some hanswer] at hok
          obtain ⟨b, hcheck, hread⟩ := bind_eq_ok.mp hok
          obtain ⟨-, rfl⟩ := Answer.check_eq_ok_iff.mp hcheck
          obtain ⟨hstatus, id, hid, rfl⟩ := Client.readHandle_eq_ok_iff.mp hread
          exact ⟨n.nextReply, a, id, rfl, hanswer, hstatus, hid, rfl⟩
    · rintro ⟨reply, a, id, hreply, hanswer, hstatus, hid, rfl⟩
      obtain rfl : n.nextReply = reply := by simpa using hreply
      rw [Reply.outcome_eq_use hanswer (.inl (by omega))]
      exact Client.readHandle_eq_ok_iff.mpr ⟨hstatus, id, hid, rfl⟩
  · simp

end Submission

/-! ### Results of a query -/

namespace Client

variable (c : Client)

/-- **The loop over pages of spans** heeds replies. -/
lemma heeds_spansFrom (limit : Option Nat) (cursor : String) (found : List Span) :
    Action.Heeds Request.FailsBy (c.spansFrom limit cursor found) := by
  have hpage : ∀ cursor, (c.spanPage cursor limit).Heeds Request.FailsBy := fun cursor =>
    Action.Asks.heeds rfl (IsTame.decode SpanPage.read?)
  intro n
  fun_induction spansFrom c limit cursor found n with
  | case1 cursor found n e n' herror => exact (hpage cursor).of_error herror
  | case2 cursor found n page n' hok all most hmost =>
      exact (hpage cursor).of_ok hok ⟨[], .of_ok (all.take most) n'⟩
  | case3 cursor found n page n' hok all hmost hnext =>
      exact (hpage cursor).of_ok hok ⟨[], .of_ok all n'⟩
  | case4 cursor found n page n' hok all hmost next hnext ih =>
      exact (hpage cursor).of_ok hok ih

/-- **The loop over pages of events** heeds replies. -/
lemma heeds_groupsFrom (cursor : String) (groups : Groups) :
    Action.Heeds Request.FailsBy (c.groupsFrom cursor groups) := by
  have hpage : ∀ cursor, (c.eventPage cursor).Heeds Request.FailsBy := fun cursor =>
    Action.Asks.heeds (c.eventPage_eq_ask cursor) isTame_readEvents
  intro n
  fun_induction groupsFrom c cursor groups n with
  | case1 cursor groups n e n' herror => exact (hpage cursor).of_error herror
  | case2 cursor groups n page next n' hok groups' hnext =>
      exact (hpage cursor).of_ok hok ⟨[], .of_ok groups' n'⟩
  | case3 cursor groups n page next n' hok groups' next' hnext ih =>
      exact (hpage cursor).of_ok hok ih

end Client

namespace Handle

variable (h : Handle)

lemma heeds_slice (cursor : String) (start stop : Instant) :
    (h.slice cursor start stop).Heeds Request.FailsBy :=
  (h.client.heeds_groupsFrom _ []).map _

/-- **Slices of spans** heed replies: no span is turned to after one that fails. -/
lemma heeds_slicesOf (spans : List Span) : (h.slicesOf spans).Heeds Request.FailsBy := by
  induction spans with
  | nil => exact .pure []
  | cons s spans ih => exact (h.heeds_slice _ _ _).bind fun slice => ih.map (slice :: ·)

end Handle

namespace ResultCall

lemma heeds_use (h : Handle) (found : List Span) (call : ResultCall) :
    (call.use h found).Heeds Request.FailsBy := by
  cases call with
  | spans => exact .pure _
  | stats => exact .pure _
  | slices => exact (h.heeds_slicesOf found).map _
  | json => exact (h.heeds_slicesOf found).map _
  | slice cursor start stop => exact (h.heeds_slice cursor start stop).map _

/-- Spans that are kept are asked for in no dialogue, others in that of the loop. -/
lemma exists_dialogue_spans (r : Retrieval) :
    ∃ exchanges, Dialogue Request.FailsBy r.network exchanges
      ((Retrieval.spans r).1, (Retrieval.spans r).2.network) := by
  cases hcached : r.handle.cached with
  | some found =>
      rw [Retrieval.spans_of_cached hcached]
      exact ⟨[], .of_ok found r.network⟩
  | none =>
      obtain ⟨exchanges, hloop⟩ :=
        r.handle.client.heeds_spansFrom r.handle.limit r.handle.id [] r.network
      rcases hfetch : r.handle.client.spansFrom r.handle.limit r.handle.id [] r.network
        with ⟨e | found, n'⟩
      · rw [hfetch] at hloop
        rw [Retrieval.spans_of_error hcached hfetch]
        exact ⟨exchanges, hloop⟩
      · rw [hfetch] at hloop
        rw [Retrieval.spans_of_ok hcached hfetch]
        exact ⟨exchanges, hloop⟩

/-- **A call on the results of a query** heeds replies. -/
lemma exists_dialogue (r : Retrieval) (call : ResultCall) :
    ∃ exchanges, Dialogue Request.FailsBy r.network exchanges
      ((call.run r).1, (call.run r).2.network) := by
  cases hreads : call.readsSpans with
  | false =>
      rw [run_of_not_readsSpans hreads []]
      exact heeds_use r.handle [] call r.network
  | true =>
      obtain ⟨exchanges, hfirst⟩ := exists_dialogue_spans r
      rcases hspans : Retrieval.spans r with ⟨e | found, r'⟩
      · rw [hspans] at hfirst
        rw [run_of_spans_error hreads hspans]
        exact ⟨exchanges, hfirst.of_error⟩
      · rw [hspans] at hfirst
        rw [run_of_spans_ok hreads hspans]
        obtain ⟨more, hmore⟩ := heeds_use r'.handle found call r'.network
        exact ⟨exchanges ++ more, hfirst.append hmore⟩

end ResultCall

/-- **Every call heeds the replies to its requests.** A status tells one error, from 400 on and
below 600, and any other tells none. A call of a client exchanges one request. The first reply
of a dialogue that makes a request fail is the last one, and the call comes to its error, be it
the only page or one of many; no other call comes to an error that a status tells. A query
that is handed in is refused also by an answer that reports no error, unless its status is 201,
and a handle is given out for that status with a location and for nothing else. A query that
cannot be written is not sent.

The replies are those that come when all redirects have been followed, and a path that is not
found is the one that the answer comes from. The text that a message is found in is made of the
bytes of the body by what the headers declare; it is the text that was sent, without a byte-order
mark, if they declare no character set, and empty if the body cannot be read. -/
theorem calls_heed_replies (c : Client) :
    (∀ (path : String) (a : Answer),
      (∃! e, a.Reports path e) ↔ 400 ≤ a.status ∧ a.status < 600) ∧
    (∀ (call : ClientCall) (n : Network),
      Dialogue Request.FailsBy n (n.exchange (call.request c)) (call.run c n)) ∧
    (∀ (r : Retrieval) (call : ResultCall), ∃ exchanges,
      Dialogue Request.FailsBy r.network exchanges ((call.run r).1, (call.run r).2.network)) ∧
    (∀ (s : Submission) (n : Network),
      (∀ e, s.request c = .error e → s.run c n = (.error (.query e), n)) ∧
      ∀ r, s.request c = .ok r →
        Dialogue Request.RefusedBy n (n.exchange r) (s.run c n) ∧
        ∀ handle, (s.run c n).1 = .ok handle ↔ ∃ reply a id, n.exchange r = [(r, reply)] ∧
          reply.answer? = some a ∧ a.status = 201 ∧ a.header? "location" = some id ∧
            handle = ⟨c, id, s.limit, none⟩) ∧
    (∀ n : Network, n.Delivers c →
      (∀ call : ClientCall, n.exchange (call.request c) = [(call.request c, n.nextReply)]) ∧
      ∀ (s : Submission) r, s.request c = .ok r → n.exchange r = [(r, n.nextReply)]) ∧
    ∀ (decode : TextDecoder) (a : Answer), a.IsDecodedBy decode →
      (a.bytes? = none → a.text = "") ∧
      (∀ bytes, a.bytes? = some bytes → bytes ≠ [] →
        a.text = decode (a.header? "content-type") bytes) ∧
      (decode.IsUsual → (∀ t, a.header? "content-type" = some t → ';' ∉ t.toList) →
        ∀ s, a.bytes? = some (utf8 s) → a.text = withoutMark s) := by
  refine ⟨fun path a => Answer.existsUnique_reports_iff, fun call n => ?_,
    ResultCall.exists_dialogue,
    fun s n => ⟨fun e he => Submission.run_of_error he n, fun r hr => ⟨?_, fun handle => ?_⟩⟩,
    fun n hn => ⟨fun call => ?_, fun s r hr => ?_⟩,
    fun decode a ha => ⟨Answer.text_of_bytes?_eq_none, fun _ => ha.text_eq_decode,
      fun hdecode htype _ => ha.text_eq_withoutMark hdecode htype⟩⟩
  · obtain ⟨use, hasks, htame⟩ := call.asks c
    exact hasks.dialogue_failsBy htame n
  · exact Submission.dialogue hr n
  · exact Submission.run_eq_ok_iff hr
  · exact hn.exchange_eq (call.scheme_request c)
  · exact hn.exchange_eq (Submission.scheme_request hr)

/-- What a service says that lets nobody write. -/
def lockedText : String := "\x7b\"message\": \"read only\"\x7d"

/-- The answer of such a service, with a location that leads nowhere. -/
def lockedAnswer : Answer := ⟨403, [("location", "q-7")], lockedText⟩

lemma lockedAnswer_reports (path : String) :
    lockedAnswer.Reports path (.api 403 "read only") := by
  have hread : Document.read? lockedText
      = some (.object [(.ofString "message", .string (.ofString "read only"))]) := by rfl
  have hmember : lockedAnswer.HasMember "read only" :=
    ⟨_, [("message", .string "read only")], Document.read?_eq_some_iff.mp hread, by decide, rfl,
      rfl⟩
  exact .api (by decide) (by decide) (by decide) (.member hmember)

theorem lockedAnswer_heeded :
    ((Network.ofReplies [.redirected "/locked" lockedAnswer]).Delivers mountedClient ∧
      TextDecoder.lossy.IsUsual ∧ lockedAnswer.IsDecodedBy .lossy) ∧
    ((ClientCall.destroy "s").run mountedClient
      (.ofReplies [.redirected "/locked" lockedAnswer])).1 = .error (.api 403 "read only") ∧
    ((Submission.written "z" none).run mountedClient
      (.ofReplies [.redirected "/locked" lockedAnswer])).1 = .error (.api 403 "read only") ∧
    lockedAnswer.text = lockedText := by
  have hn : (Network.ofReplies [.redirected "/locked" lockedAnswer]).Delivers mountedClient :=
    ⟨rfl, .inl rfl, rfl⟩
  obtain ⟨-, hcalls, -, hqueries, hdelivered, htexts⟩ := calls_heed_replies mountedClient
  obtain ⟨hcall, hquery⟩ := hdelivered _ hn
  have hdecoded : lockedAnswer.IsDecodedBy .lossy := by
    rintro bytes text ⟨⟩
    exact (TextDecoder.isUsual_lossy _ (by simp [lockedAnswer, Answer.header?]) lockedText).symm
  refine ⟨⟨hn, TextDecoder.isUsual_lossy, hdecoded⟩, ?_, ?_, ?_⟩
  · have hdialogue := hcalls (.destroy "s") (.ofReplies [.redirected "/locked" lockedAnswer])
    rw [hcall] at hdialogue
    generalize (ClientCall.destroy "s").run mountedClient
      (.ofReplies [.redirected "/locked" lockedAnswer]) = out at hdialogue
    cases hdialogue with
    | stops hfails =>
        cases hfails with
        | dropped hanswer => cases hanswer
        | reported hanswer hreports =>
            cases hanswer
            exact congrArg _ (hreports.unique (lockedAnswer_reports _))
    | goesOn hpasses => exact absurd (.reported rfl (lockedAnswer_reports _)) (hpasses _)
  · obtain ⟨hdialogue, -⟩ := (hqueries (.written "z" none)
      (.ofReplies [.redirected "/locked" lockedAnswer])).2 _ rfl
    rw [hquery (.written "z" none) _ rfl] at hdialogue
    generalize (Submission.written "z" none).run mountedClient
      (.ofReplies [.redirected "/locked" lockedAnswer]) = out at hdialogue
    cases hdialogue with
    | stops hfails =>
        rcases hfails with ⟨hanswer | ⟨hanswer, hreports⟩⟩ | ⟨hanswer, hstatus, -, -⟩
        · cases hanswer
        · cases hanswer
          exact congrArg _ (hreports.unique (lockedAnswer_reports _))
        · cases hanswer
          exact absurd hstatus (by decide)
    | goesOn hpasses =>
        exact absurd (.failed (.reported rfl (lockedAnswer_reports _))) (hpasses _)
  · obtain ⟨-, -, husual⟩ := htexts .lossy lockedAnswer hdecoded
    exact husual TextDecoder.isUsual_lossy (by simp [lockedAnswer, Answer.header?]) lockedText rfl

/-! ### Refusals that are not told as they were sent -/

/-- A refusal with a byte-order mark in front. -/
def markedAnswer : Answer := ⟨403, [], "\ufeffno"⟩

/-- A refusal that tells one thing more besides its message. -/
def besideText (other : String) : String := "\x7b\"message\":\"no\",\"x\":" ++ other ++ "\x7d"

/-- The object that such a refusal is. -/
def besideDocument (other : Document) : Document :=
  .object [(.ofString "message", .string (.ofString "no")), (.ofString "x", other)]

/-- It starts as the text of an object with a message. -/
lemma toList_besideText (other : String) : (besideText other).toList =
    '\x7b' :: (quoted "message" ++ (Json.keySeparator 0 ++ (quoted "no" ++
      (',' :: (quoted "x" ++ (Json.keySeparator 0 ++ (other.toList ++ ['\x7d']))))))) := by
  have hlead : "\x7b\"message\":\"no\",\"x\":".toList =
      '\x7b' :: (quoted "message" ++ (Json.keySeparator 0 ++ (quoted "no" ++
        (',' :: (quoted "x" ++ Json.keySeparator 0))))) := by rfl
  unfold besideText
  simp only [String.toList_append, hlead, List.cons_append, List.append_assoc]
  rfl

lemma isSpelled_besideText {d : Document} {other : String} (h : d.IsSpelled other) :
    (besideDocument d).IsSpelled (besideText other) := by
  have hclosed : Token.AreSpelled (d.tokens ++ [.closeObject]) (other.toList ++ ['\x7d']) :=
    h.append (.mark (by decide) .nil)
  have hx := ((hclosed.keySeparator 0).quoted "x").mark (c := ',') (t := .comma) (by decide)
  have hmessage := ((hx.quoted "no").keySeparator 0).quoted "message"
  rw [Document.IsSpelled, toList_besideText]
  exact hmessage.mark (by decide)

/-- Arrays in each other. -/
def nestedArrays : Nat → Document
  | 0 => .array []
  | n + 1 => .array [nestedArrays n]

/-- Their text. -/
def nestedText (n : Nat) : String :=
  String.ofList (List.replicate (n + 1) '[' ++ List.replicate (n + 1) ']')

lemma nesting_nestedArrays (n : Nat) : (nestedArrays n).nesting = n + 1 := by
  induction n with
  | zero => rfl
  | succ n ih => rw [nestedArrays, Document.nesting, Document.itemNesting, Document.itemNesting, ih,
      Nat.max_zero]

lemma isSpelled_nestedText (n : Nat) : (nestedArrays n).IsSpelled (nestedText n) := by
  rw [Document.IsSpelled, nestedText, String.toList_ofList]
  induction n with
  | zero => exact .mark (by decide) (.mark (by decide) .nil)
  | succ n ih =>
      rw [List.replicate_succ, List.replicate_succ' (n := n + 1), List.cons_append,
        ← List.append_assoc]
      exact .mark (by decide) (ih.append (.mark (by decide) .nil))

/-- Beside a value that cannot be held, the message is not found, and all is told as it is. -/
lemma besideText_told {d : Document} {other : String} (h : d.IsSpelled other)
    (hd : d.value? 126 = none) : (besideDocument d).IsSpelled (besideText other) ∧
      ((ClientCall.destroy "s").run mountedClient
        (.ofReplies [.answer ⟨403, [], besideText other⟩])).1
          = .error (.api 403 (besideText other)) := by
  have hspelled := isSpelled_besideText h
  refine ⟨hspelled, ?_⟩
  have htext : (⟨403, [], besideText other⟩ : Answer).text = besideText other := by
    show withoutMark _ = _
    rw [withoutMark, toList_besideText]
    rfl
  have hvalue : (besideDocument d).value? Document.maxNesting = none := by
    rw [besideDocument, Document.maxNesting, Document.value?, Document.memberValues?,
      Document.memberValues?, hd]
    rfl
  have hmessage := Answer.message_of_not_hasMember
    (Answer.not_hasMember_of_isSpelled (htext ▸ hspelled) hvalue)
  rw [htext] at hmessage
  show Except.error (ClientError.api 403 (Answer.message _)) = _
  rw [hmessage]
  rfl

/-- Values that cannot be held, with their texts: a number beyond all doubles, half of a character,
and arrays nested too deeply for a member of an object. -/
def unheldValues : List (String × Document) :=
  [("1e400", .number ⟨false, ['1'], [], some 400⟩), ("\"\\ud800\"", .string [.unit 0xd800]),
    (nestedText 126, nestedArrays 126)]

/-- A byte-order mark in front of a message is not told, the path that is not found need not be the
one that was asked for, and a message beside a value that cannot be held is not found. -/
theorem refusals_told_otherwise :
    (markedAnswer.bytes? = some (utf8 "\ufeffno") ∧ (∀ m, ¬ markedAnswer.HasMember m) ∧
      ((ClientCall.destroy "s").run mountedClient (.ofReplies [.answer markedAnswer])).1
        = .error (.api 403 "no")) ∧
    (((ClientCall.destroy "s").run mountedClient
        (.ofReplies [.redirected "/moved" ⟨404, [], ""⟩])).1 = .error (.notFound "/moved") ∧
      ((ClientCall.destroy "s").request mountedClient).url.path.text ≠ "/moved") ∧
    ∀ v ∈ unheldValues, (besideDocument v.2).IsSpelled (besideText v.1) ∧
      ((ClientCall.destroy "s").run mountedClient
        (.ofReplies [.answer ⟨403, [], besideText v.1⟩])).1
          = .error (.api 403 (besideText v.1)) := by
  have hmarked : ∀ m, ¬ markedAnswer.HasMember m := by
    intro m hm
    obtain ⟨o, hparse, -⟩ := Answer.hasMember_iff.mp hm
    have hnone : Json.parse? markedAnswer.text = none := by rfl
    rw [hnone] at hparse
    cases hparse
  have hmessage := Answer.message_of_not_hasMember hmarked
  refine ⟨⟨rfl, hmarked, ?_⟩, ⟨by rfl, by decide⟩, ?_⟩
  · show Except.error (ClientError.api 403 markedAnswer.message) = _
    rw [hmessage]
    rfl
  · rw [unheldValues]
    refine List.forall_mem_cons.mpr ⟨?_, List.forall_mem_cons.mpr ⟨?_,
      List.forall_mem_singleton.mpr ?_⟩⟩
    · refine besideText_told (Document.read?_eq_some_iff.mp (by rfl)) ?_
      have hvalue : RawNumber.value? ⟨false, ['1'], [], some 400⟩ = none := by decide
      rw [Document.value?, hvalue]
      rfl
    · exact besideText_told (Document.read?_eq_some_iff.mp (by rfl)) (by rfl)
    · refine besideText_told (isSpelled_nestedText 126) (Option.eq_none_iff_forall_ne_some.mpr ?_)
      intro v hv
      have hnesting := Document.nesting_le_of_value? _ _ _ hv
      rw [nesting_nestedArrays] at hnesting
      omega

end EventQuery
