import EventQuery.Proofs.Slice.Requests
import EventQuery.Proofs.Span.Paging

/-!
Sessions: calls on the results of one query, one after the other.

* `ResultCall`: a call, `ResultCall.run`: what it does, and `ResultCall.use`: what it makes
  of spans that are there already.
* `Retrieval.Unfetched`, `Retrieval.Fetched`: whether a call of a session has met replies
  that bring the spans as a whole.
* `spans_fetched_once`: the spans are kept from the first such call on, and from then on
  they are used and never asked for again.
-/

namespace EventQuery

/-! ### Calls -/

/-- A call on the results of a query. -/
inductive ResultCall where
  | spans
  | stats
  | slices
  | json
  | slice (cursor : String) (start stop : Instant)

/-- What a call gives. -/
inductive CallResult where
  | spans (found : List Span)
  | stats (value : Option SpanStats)
  | slices (value : List Slice)
  | json (text : String)
  | slice (value : Slice)

namespace ResultCall

/-- What a call does. -/
def run : ResultCall → Action Retrieval CallResult
  | spans => do return .spans (← Retrieval.spans)
  | stats => do return .stats (← Retrieval.stats)
  | slices => do return .slices (← Retrieval.slices)
  | json => do return .json (← Retrieval.json)
  | slice cursor start stop => do return .slice (← Retrieval.slice cursor start stop)

/-- Whether a call is about the spans of the query. -/
def readsSpans : ResultCall → Bool
  | slice .. => false
  | _ => true

/-- What a call makes of spans that are there already. -/
def use (h : Handle) (found : List Span) : ResultCall → Action Network CallResult
  | spans => pure (.spans found)
  | stats => pure (.stats (SpanStats.ofSpans? found))
  | slices => do return .slices (← h.slicesOf found)
  | json => do return .json (Json.text 2 (.array ((← h.slicesOf found).map Slice.encode)))
  | slice cursor start stop => do return .slice (← h.slice cursor start stop)

end ResultCall

/-- An action of the network alone: what is kept stays as it is. -/
def Action.overNetwork {α : Type} (x : Action Network α) : Action Retrieval α := fun r =>
  ((x r.network).1, { r with network := (x r.network).2 })

namespace ResultCall

variable {r r' : Retrieval} {found : List Span}

/-- The slices of spans that are there are taken over the network. -/
lemma slices_of_spans (h : Retrieval.spans r = (.ok found, r')) :
    Retrieval.slices r = (r'.handle.slicesOf found).overNetwork r' :=
  Action.bind_of_ok h _

/-- A call uses the spans, wherever they come from. -/
lemma run_of_spans_ok {call : ResultCall} (hreads : call.readsSpans = true)
    (h : Retrieval.spans r = (.ok found, r')) :
    call.run r = (call.use r'.handle found).overNetwork r' := by
  cases call with
  | spans => exact Action.bind_of_ok h _
  | stats => exact Action.bind_of_ok (Action.bind_of_ok h _) _
  | slices =>
      rw [run, use, Action.map_apply, slices_of_spans h, Action.overNetwork, Action.overNetwork,
        Action.map_apply]
  | json =>
      rw [run, use, Action.map_apply, Retrieval.json, Action.map_apply, slices_of_spans h,
        Action.overNetwork, Action.overNetwork, Action.map_apply]
      cases (r'.handle.slicesOf found r'.network).1 <;> rfl
  | slice => cases hreads

/-- A call fails with the spans. -/
lemma run_of_spans_error {call : ResultCall} (hreads : call.readsSpans = true) {e : ClientError}
    (h : Retrieval.spans r = (.error e, r')) : call.run r = (.error e, r') := by
  cases call with
  | spans => exact Action.bind_of_error h _
  | stats => exact Action.bind_of_error (Action.bind_of_error h _) _
  | slices => exact Action.bind_of_error (Action.bind_of_error h _) _
  | json => exact Action.bind_of_error (Action.bind_of_error (Action.bind_of_error h _) _) _
  | slice => cases hreads

/-- A slice has nothing to do with the spans. -/
lemma run_of_not_readsSpans {call : ResultCall} (hreads : call.readsSpans = false)
    (found : List Span) : call.run r = (call.use r.handle found).overNetwork r := by
  cases call with
  | slice cursor start stop =>
      rw [run, use, Action.map_apply, Action.overNetwork, Action.map_apply]
      rfl
  | _ => cases hreads

/-- **Spans that are kept are used**, and stay. -/
lemma run_of_cached (h : r.handle.cached = some found) (call : ResultCall) :
    call.run r = (call.use r.handle found).overNetwork r := by
  cases hreads : call.readsSpans with
  | true => exact run_of_spans_ok hreads (Retrieval.spans_of_cached h)
  | false => exact run_of_not_readsSpans hreads found

end ResultCall

/-! ### Requests of calls -/

/-- Requests for events are no requests for spans. -/
lemma Client.eventRequest_ne_spanRequest {c : Client} (hbase : c.base.isRootless = false)
    (cursor other : String) (limit : Option Nat) :
    c.eventRequest cursor ≠ c.spanRequest other limit := by
  intro heq
  obtain ⟨names, hevents⟩ := Url.exists_path_concat hbase ["query", cursor]
    (by decide : IsPlain "events")
  obtain ⟨others, hspans⟩ := Url.exists_path_concat hbase ["query", other]
    (by decide : IsPlain "spans")
  have hpath : (c.eventRequest cursor).url.path = (c.spanRequest other limit).url.path :=
    congrArg (fun r => r.url.path) heq
  have hpieces := hevents.symm.trans (hpath.trans ((c.path_spanRequest other limit).trans hspans))
  have hlast := (List.append_inj' (UrlPath.segments.inj hpieces) rfl).2
  exact absurd hlast (by decide)

/-- Blocks of requests for events, one after the other, are requests for events. -/
lemma Client.exists_flatten_eq {c : Client} {spans : List Span} {blocks : List (List Request)}
    (h : List.Forall₂ (fun s block => c.IsEventBlock (Handle.spanCursor s) block) spans blocks) :
    ∃ cursors : List String, blocks.flatten = cursors.map c.eventRequest := by
  induction h with
  | nil => exact ⟨[], rfl⟩
  | cons hblock _ ih =>
      obtain ⟨later, rfl⟩ := hblock
      obtain ⟨cursors, hcursors⟩ := ih
      exact ⟨_ :: later ++ cursors, by rw [List.flatten_cons, hcursors, List.map_append]⟩

namespace ResultCall

/-- **With the spans at hand, a call asks for events only.** -/
lemma use_reaches {h : Handle} {n : Network} (hn : n.Delivers h.client) (found : List Span)
    (call : ResultCall) :
    ∃ cursors : List String,
      n.Reaches (cursors.map h.client.eventRequest) (call.use h found n).2 := by
  obtain ⟨begun, blocks, -, hblocks, hreaches, -⟩ := h.slicesOf_reaches found hn
  obtain ⟨cursors, hcursors⟩ := Client.exists_flatten_eq hblocks
  rw [hcursors] at hreaches
  cases call with
  | spans => exact ⟨[], n.reaches_self⟩
  | stats => exact ⟨[], n.reaches_self⟩
  | slices => exact ⟨cursors, by rwa [use, Action.map_apply]⟩
  | json => exact ⟨cursors, by rwa [use, Action.map_apply]⟩
  | slice cursor start stop =>
      rcases hslice : h.slice cursor start stop n with ⟨r, n'⟩
      obtain ⟨_, ⟨later, rfl⟩, hreaches⟩ := Handle.slice_reaches hn hslice
      exact ⟨_ :: later, by rwa [use, Action.map_apply, hslice]⟩

end ResultCall

/-! ### Fetching the spans -/

namespace Retrieval

/-- The state after calls. -/
def afterCalls (r : Retrieval) (calls : List ResultCall) : Retrieval :=
  calls.foldl (fun r call => (call.run r).2) r

/-- A call that is about the spans meets replies that bring them as a whole. -/
def Obtains (r : Retrieval) (call : ResultCall) (found : List Span) : Prop :=
  call.readsSpans = true ∧ ∃ before last, r.network.Completes r.handle.limit before last ∧
    found = cutTo r.handle.limit (spansOf (before ++ [last]))

/-- No call of a session has met such replies. -/
def Unfetched (start : Retrieval) (calls : List ResultCall) : Prop :=
  ∀ earlier call later, calls = earlier ++ call :: later →
    ∀ found, ¬ (start.afterCalls earlier).Obtains call found

/-- A call of a session has met such replies, and none before it. -/
def Fetched (start : Retrieval) (calls : List ResultCall) (found : List Span) : Prop :=
  ∃ earlier call later, calls = earlier ++ call :: later ∧ start.Unfetched earlier ∧
    (start.afterCalls earlier).Obtains call found

variable {start : Retrieval} {calls : List ResultCall} {call : ResultCall} {found : List Span}

lemma afterCalls_concat :
    start.afterCalls (calls ++ [call]) = (call.run (start.afterCalls calls)).2 :=
  List.foldl_concat ..

lemma unfetched_nil : start.Unfetched [] := by
  intro earlier call later h
  simp at h

lemma unfetched_concat_iff : start.Unfetched (calls ++ [call])
    ↔ start.Unfetched calls ∧ ∀ found, ¬ (start.afterCalls calls).Obtains call found := by
  constructor
  · intro h
    refine ⟨fun earlier other later heq => h earlier other (later ++ [call]) ?_,
      h calls call [] rfl⟩
    simp [heq]
  · rintro ⟨hcalls, hcall⟩ earlier other later heq
    rcases concat_eq_append_cons heq with ⟨rfl, rfl, -⟩ | ⟨more, hmore⟩
    · exact hcall
    · exact hcalls earlier other more hmore

lemma fetched_concat_iff : start.Fetched (calls ++ [call]) found
    ↔ start.Fetched calls found ∨
      start.Unfetched calls ∧ (start.afterCalls calls).Obtains call found := by
  constructor
  · rintro ⟨earlier, other, later, heq, hearlier, hother⟩
    rcases concat_eq_append_cons heq with ⟨rfl, rfl, -⟩ | ⟨more, hmore⟩
    · exact .inr ⟨hearlier, hother⟩
    · exact .inl ⟨earlier, other, more, hmore, hearlier, hother⟩
  · rintro (⟨earlier, other, later, rfl, hearlier, hother⟩ | ⟨hcalls, hcall⟩)
    · exact ⟨earlier, other, later ++ [call], by simp, hearlier, hother⟩
    · exact ⟨calls, call, [], rfl, hcalls, hcall⟩

lemma unfetched_or_fetched (start : Retrieval) (calls : List ResultCall) :
    start.Unfetched calls ∨ ∃ found, start.Fetched calls found := by
  induction calls using List.reverseRecOn with
  | nil => exact .inl unfetched_nil
  | append_singleton calls call ih =>
      rcases ih with hcalls | ⟨found, hfound⟩
      · by_cases hcall : ∃ found, (start.afterCalls calls).Obtains call found
        · obtain ⟨found, hfound⟩ := hcall
          exact .inr ⟨found, fetched_concat_iff.mpr (.inr ⟨hcalls, hfound⟩)⟩
        · exact .inl (unfetched_concat_iff.mpr ⟨hcalls, not_exists.mp hcall⟩)
      · exact .inr ⟨found, fetched_concat_iff.mpr (.inl hfound)⟩

/-! ### What is kept -/

/-- The state of a session that keeps these spans, or none. -/
structure Keeps (start r : Retrieval) (cached : Option (List Span)) : Prop where
  handle : r.handle = { start.handle with cached }
  delivers : r.network.Delivers start.handle.client

variable {r : Retrieval}

lemma Keeps.cached_eq {cached : Option (List Span)} (h : start.Keeps r cached) :
    r.handle.cached = cached := by
  rw [h.handle]

/-- What is made of spans that are at hand leaves what is kept. -/
lemma Keeps.overNetwork {cached : Option (List Span)} (h : start.Keeps r cached)
    (call : ResultCall) (found : List Span) :
    start.Keeps ((call.use r.handle found).overNetwork r).2 cached where
  handle := h.handle
  delivers := by
    have hn : r.network.Delivers r.handle.client := by
      rw [h.handle]
      exact h.delivers
    obtain ⟨cursors, hreaches⟩ := ResultCall.use_reaches hn found call
    exact hreaches.delivers h.delivers

lemma Keeps.run_of_cached (h : start.Keeps r (some found)) (call : ResultCall) :
    start.Keeps (call.run r).2 (some found) := by
  rw [ResultCall.run_of_cached h.cached_eq]
  exact h.overNetwork call found

/-- Replies that bring the spans as a whole are asked for, and the spans are used. -/
lemma Keeps.run_of_completes (h : start.Keeps r none) (hreads : call.readsSpans = true)
    {before : List SpanPage} {last : SpanPage}
    (hpages : r.network.Completes start.handle.limit before last) :
    let found := cutTo start.handle.limit (spansOf (before ++ [last]))
    let fetched : Retrieval := ⟨{ start.handle with cached := some found },
      r.network.after (start.handle.client.spanRequests start.handle.limit start.handle.id before)
        (r.network.replies.drop (before.length + 1))⟩
    start.Keeps fetched (some found) ∧
      call.run r = (call.use fetched.handle found).overNetwork fetched := by
  obtain ⟨handle, network⟩ := r
  obtain rfl : handle = { start.handle with cached := none } := h.handle
  intro found fetched
  have hfetch := Client.spansFrom_of_completes h.delivers hpages start.handle.id
  exact ⟨⟨rfl, h.delivers.after _ _⟩,
    ResultCall.run_of_spans_ok hreads (spans_of_ok rfl hfetch)⟩

/-- A call that meets other replies leaves nothing behind. -/
lemma Keeps.run_of_breaksOff (h : start.Keeps r none) (hreads : call.readsSpans = true)
    {before : List SpanPage} (hpages : r.network.BreaksOff start.handle.limit before) :
    ∃ e, call.run r = (.error e, ⟨r.handle,
      r.network.after (start.handle.client.spanRequests start.handle.limit start.handle.id before)
        (r.network.replies.drop (before.length + 1))⟩) := by
  obtain ⟨handle, network⟩ := r
  obtain rfl : handle = { start.handle with cached := none } := h.handle
  obtain ⟨e, -, hfetch⟩ := Client.spansFrom_of_breaksOff h.delivers hpages start.handle.id
  exact ⟨e, ResultCall.run_of_spans_error hreads (spans_of_error rfl hfetch)⟩

lemma Keeps.run_of_obtains (h : start.Keeps r none) (hcall : r.Obtains call found) :
    start.Keeps (call.run r).2 (some found) := by
  obtain ⟨hreads, before, last, hpages, rfl⟩ := hcall
  rw [h.handle] at hpages ⊢
  obtain ⟨hfetched, hrun⟩ := h.run_of_completes hreads hpages
  rw [hrun]
  exact hfetched.overNetwork call _

lemma Keeps.run_of_not_obtains (h : start.Keeps r none)
    (hcall : ∀ found, ¬ r.Obtains call found) : start.Keeps (call.run r).2 none := by
  cases hreads : call.readsSpans with
  | false =>
      rw [ResultCall.run_of_not_readsSpans hreads []]
      exact h.overNetwork call []
  | true =>
      rcases r.network.completes_or_breaksOff start.handle.limit with
        ⟨before, last, hpages⟩ | ⟨before, hpages⟩
      · refine absurd ⟨hreads, before, last, ?_, rfl⟩ (hcall _)
        rwa [h.handle]
      · obtain ⟨e, hrun⟩ := h.run_of_breaksOff hreads hpages
        rw [hrun]
        exact ⟨h.handle, h.delivers.after _ _⟩

/-- A session that has met no replies that bring the spans keeps none. -/
lemma Keeps.of_unfetched (hstart : start.Keeps start none) :
    start.Unfetched calls → start.Keeps (start.afterCalls calls) none := by
  induction calls using List.reverseRecOn with
  | nil => exact fun _ => hstart
  | append_singleton calls call ih =>
      intro h
      obtain ⟨hcalls, hcall⟩ := unfetched_concat_iff.mp h
      rw [afterCalls_concat]
      exact (ih hcalls).run_of_not_obtains hcall

/-- **A session keeps the spans** from the first replies on that bring them. -/
lemma Keeps.of_fetched (hstart : start.Keeps start none) :
    start.Fetched calls found → start.Keeps (start.afterCalls calls) (some found) := by
  induction calls using List.reverseRecOn with
  | nil =>
      rintro ⟨earlier, call, later, heq, -⟩
      simp at heq
  | append_singleton calls call ih =>
      intro h
      rw [afterCalls_concat]
      rcases fetched_concat_iff.mp h with hcalls | ⟨hcalls, hcall⟩
      · exact (ih hcalls).run_of_cached call
      · exact (hstart.of_unfetched hcalls).run_of_obtains hcall

end Retrieval

/-- **The spans of a query are fetched once.** Until a call of a session meets replies that
bring them as a whole, nothing is kept and every call for them starts over; from then on
they are kept, every call makes use of them, and none asks for spans again. Slices are
taken of one span after the other. -/
theorem spans_fetched_once {c : Client} {n : Network} (hn : n.Delivers c) (id : String)
    (limit : Option Nat) (calls : List ResultCall) :
    let start : Retrieval := ⟨⟨c, id, limit, none⟩, n⟩
    let r := start.afterCalls calls
    (start.Unfetched calls → r.handle = ⟨c, id, limit, none⟩ ∧
      ∀ call : ResultCall, call.readsSpans = true →
        (∀ before last, r.network.Completes limit before last →
          let found := cutTo limit (spansOf (before ++ [last]))
          call.run r = (call.use ⟨c, id, limit, some found⟩ found).overNetwork
            ⟨⟨c, id, limit, some found⟩, r.network.after (c.spanRequests limit id before)
              (r.network.replies.drop (before.length + 1))⟩) ∧
        ∀ before, r.network.BreaksOff limit before →
          ∃ e, call.run r = (.error e,
            ⟨⟨c, id, limit, none⟩, r.network.after (c.spanRequests limit id before)
              (r.network.replies.drop (before.length + 1))⟩)) ∧
    (∀ found, start.Fetched calls found → r.handle = ⟨c, id, limit, some found⟩ ∧
      ∀ call : ResultCall, call.run r = (call.use r.handle found).overNetwork r ∧
        ∃ cursors : List String,
          r.network.Reaches (cursors.map c.eventRequest) (call.run r).2.network) ∧
    (start.Unfetched calls ∨ ∃ found, start.Fetched calls found) ∧
    r.network.Delivers c ∧
    ((∃ before last, r.network.Completes limit before last) ∨
      ∃ before, r.network.BreaksOff limit before) ∧
    (∀ (h : Handle) found m, m.Delivers h.client →
      ∃ begun blocks, begun <+: found ∧
        List.Forall₂ (fun s block => h.client.IsEventBlock (Handle.spanCursor s) block)
          begun blocks ∧
        m.Reaches blocks.flatten (ResultCall.slices.use h found m).2 ∧
        ∀ result, (ResultCall.slices.use h found m).1 = .ok result →
          ∃ slices, result = .slices slices ∧ begun = found ∧
            List.Forall₂ h.IsSliceOf found slices) ∧
    ∀ cursor other most, c.eventRequest cursor ≠ c.spanRequest other most := by
  intro start r
  have hstart : start.Keeps start none := ⟨rfl, hn⟩
  refine ⟨fun h => ?_, fun found h => ?_, start.unfetched_or_fetched calls, ?_,
    r.network.completes_or_breaksOff limit, ?_, Client.eventRequest_ne_spanRequest hn.rooted⟩
  · have hkeeps := hstart.of_unfetched h
    refine ⟨hkeeps.handle, fun call hreads =>
      ⟨fun before last hpages => (hkeeps.run_of_completes hreads hpages).2,
        fun before hpages => ?_⟩⟩
    obtain ⟨e, hrun⟩ := hkeeps.run_of_breaksOff hreads hpages
    rw [hkeeps.handle] at hrun
    exact ⟨e, hrun⟩
  · have hkeeps := hstart.of_fetched h
    refine ⟨hkeeps.handle, fun call => ?_⟩
    have hrun := ResultCall.run_of_cached hkeeps.cached_eq call
    have hclient : r.handle.client = c := congrArg Handle.client hkeeps.handle
    have hdelivers : r.network.Delivers r.handle.client := hclient ▸ hkeeps.delivers
    obtain ⟨cursors, hreaches⟩ := ResultCall.use_reaches hdelivers found call
    rw [hclient] at hreaches
    exact ⟨hrun, cursors, by rw [hrun]; exact hreaches⟩
  · rcases start.unfetched_or_fetched calls with h | ⟨found, h⟩
    · exact (hstart.of_unfetched h).delivers
    · exact (hstart.of_fetched h).delivers
  · intro h found m hm
    obtain ⟨begun, blocks, hbegun, hblocks, hreaches, hall⟩ := h.slicesOf_reaches found hm
    rw [ResultCall.use, Action.map_apply]
    refine ⟨begun, blocks, hbegun, hblocks, hreaches, fun result hresult => ?_⟩
    rcases hslices : (h.slicesOf found m).1 with e | slices
    · rw [hslices] at hresult
      cases hresult
    · rw [hslices] at hresult
      cases hresult
      exact ⟨slices, rfl, hall slices hslices⟩

/-- A query whose first reply is lost, and whose replies end with the pages of its spans. -/
def lossyRetrieval : Retrieval :=
  ⟨⟨mountedClient, "q", none, none⟩, .ofReplies (.dropped :: pageReplies)⟩

theorem lossyRetrieval_fetched :
    lossyRetrieval.network.Delivers mountedClient ∧ ∃ found, found.length = 3 ∧
      lossyRetrieval.Fetched [.spans, .slices] found ∧
      (lossyRetrieval.afterCalls [.spans, .slices]).handle.cached = some found ∧
      (ResultCall.stats.run (lossyRetrieval.afterCalls [.spans, .slices])).1
        = .ok (.stats (SpanStats.ofSpans? found)) := by
  have hn : lossyRetrieval.network.Delivers mountedClient := ⟨rfl, .inl rfl, rfl⟩
  have hlost : lossyRetrieval.network.BreaksOff none [] := ⟨List.nil_prefix, goesOn_nil, rfl⟩
  have hnone : lossyRetrieval.Unfetched [.spans] := by
    refine Retrieval.unfetched_concat_iff.mpr ⟨Retrieval.unfetched_nil, ?_⟩
    rintro found ⟨-, before, last, hpages, -⟩
    have hbrings := hpages.brings
    rcases before with _ | ⟨page, before⟩ <;>
      simp [Network.Brings, Retrieval.afterCalls, lossyRetrieval, Network.ofReplies,
        Reply.spanPage?, Reply.record?, Reply.answer?] at hbrings
  obtain ⟨hstart, -⟩ := spans_fetched_once hn "q" none []
  obtain ⟨e, hrun⟩ := ((hstart Retrieval.unfetched_nil).2 .spans rfl).2 [] hlost
  have hafter : (lossyRetrieval.afterCalls [.spans]).network.replies = pageReplies ++ [] := by
    rw [List.append_nil]
    exact congrArg (fun r => r.2.network.replies) hrun
  have hfetched : lossyRetrieval.Fetched [.spans, .slices]
      (spansOf [leadingPage, closingPage]) := by
    have hlimit : (lossyRetrieval.afterCalls [.spans]).handle.limit = none :=
      congrArg (fun r => r.2.handle.limit) hrun
    refine ⟨[.spans], .slices, [], rfl, hnone, rfl, [leadingPage], closingPage, ?_, ?_⟩
    · rw [hlimit]
      exact completes_of_pageReplies hafter
    · rw [hlimit]
      rfl
  obtain ⟨-, hkept, -⟩ := spans_fetched_once hn "q" none [.spans, .slices]
  obtain ⟨hhandle, hruns⟩ := hkept _ hfetched
  refine ⟨hn, _, rfl, hfetched, congrArg Handle.cached hhandle, ?_⟩
  exact congrArg Prod.fst (hruns .stats).1

end EventQuery
