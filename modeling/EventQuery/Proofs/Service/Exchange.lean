import EventQuery.Proofs.Outcome
import EventQuery.Proofs.Url.Segments

/-!
What becomes of a request.

* `Network.Delivers`: requests of a client reach the service.
* `Reply.outcome`: what a reply comes to, and `Network.after`: what it leaves;
  `Reply.record?`: the record that it brings.
* `Network.Reaches`: a network comes about from another by requests.
* `Request.ask_eq`: a request that is delivered takes the next reply, and nothing else
  counts.
* `Action.sent`: the requests that an action makes.
-/

namespace EventQuery

variable {α β : Type}

/-! ### Actions -/

namespace Action

variable {σ : Type} {x : Action σ α} {s s' : σ}

lemma bind_of_ok {a : α} (h : x s = (.ok a, s')) (f : α → Action σ β) : (x >>= f) s = f a s' := by
  rw [bind_apply, h]

lemma bind_of_error {e : ClientError} (h : x s = (.error e, s')) (f : α → Action σ β) :
    (x >>= f) s = (.error e, s') := by
  rw [bind_apply, h]

/-- What is done with a result changes nothing but the result. -/
lemma map_apply (x : Action σ α) (f : α → β) (s : σ) :
    (do let a ← x; return f a : Action σ β) s = ((x s).1.map f, (x s).2) := by
  rw [bind_apply]
  rcases x s with ⟨_ | _, _⟩ <;> rfl

end Action

/-! ### Replies -/

/-- What a reply to a request for a path comes to, where an answer that reports no error is
made use of. -/
def Reply.outcome (path : String) (use : Answer → Except ClientError α) (reply : Reply) :
    Except ClientError α :=
  match reply.answer? with
  | none => .error (.http .send)
  | some a => do use (← a.check (reply.pathFrom path))

lemma Reply.outcome_of_none {reply : Reply} (h : reply.answer? = none) (path : String)
    (use : Answer → Except ClientError α) : reply.outcome path use = .error (.http .send) := by
  rw [outcome, h]

lemma Reply.outcome_of_some {reply : Reply} {a : Answer} (h : reply.answer? = some a)
    (path : String) (use : Answer → Except ClientError α) :
    reply.outcome path use = (do use (← a.check (reply.pathFrom path))) := by
  rw [outcome, h]

/-- An answer is checked by its status alone. -/
lemma Answer.check_eq_ok_iff {path : String} {a b : Answer} :
    a.check path = .ok b ↔ (a.status < 400 ∨ 600 ≤ a.status) ∧ a = b := by
  rw [check, error?]
  by_cases hstatus : a.status < 400 ∨ 600 ≤ a.status
  · simp [hstatus]
  · rw [if_neg hstatus]
    split_ifs <;> simp [hstatus]

/-- The record that a reply brings, if it is an answer that reports no error and holds one. -/
def Reply.record? (read : Document → Option α) (reply : Reply) : Option α :=
  reply.answer?.bind fun a =>
    if a.status < 400 ∨ 600 ≤ a.status then (a.decode read).toOption else none

lemma Reply.record?_eq_some_iff {read : Document → Option α} {reply : Reply} {x : α} :
    reply.record? read = some x ↔ ∃ a, reply.answer? = some a ∧
      (a.status < 400 ∨ 600 ≤ a.status) ∧ a.decode read = .ok x := by
  have hdecode : ∀ a : Answer, (a.decode read).toOption = some x ↔ a.decode read = .ok x := by
    intro a
    cases a.decode read <;> simp [Except.toOption]
  simp only [record?, Option.bind_eq_some_iff, Option.ite_none_right_eq_some, hdecode]

lemma Reply.outcome_decode_eq_ok_iff {path : String} {read : Document → Option α} {reply : Reply}
    {x : α} :
    (reply.outcome path fun a => a.decode read) = .ok x ↔ reply.record? read = some x := by
  rw [record?_eq_some_iff]
  cases hanswer : reply.answer? with
  | none => simp [outcome_of_none hanswer]
  | some a => simp [outcome_of_some hanswer, bind_eq_ok, Answer.check_eq_ok_iff]

namespace Network

/-- Requests for resources of a client reach the service. -/
structure Delivers (n : Network) (c : Client) : Prop where
  reachable : n.reachable = true
  sendable : c.base.scheme = "http" ∨ c.base.scheme = "https"
  rooted : c.base.isRootless = false

/-- The reply to the next request. -/
def nextReply (n : Network) : Reply := n.replies.headD (.answer exhausted)

/-- The reply to the request after as many others. -/
def replyAt (n : Network) (count : Nat) : Reply := n.replies.getD count (.answer exhausted)

lemma replyAt_zero (n : Network) : n.replyAt 0 = n.nextReply := by
  rcases n with ⟨_, _ | _, _⟩ <;> rfl

/-- The network after requests, with the replies that are left. -/
def after (n : Network) (requests : List Request) (rest : List Reply) : Network :=
  { n with replies := rest, delivered := n.delivered ++ requests }

/-- One network comes about from another by these requests. -/
def Reaches (n : Network) (requests : List Request) (n' : Network) : Prop :=
  ∃ rest, n' = n.after requests rest

lemma after_after (n : Network) (requests more : List Request) (rest rest' : List Reply) :
    (n.after requests rest).after more rest' = n.after (requests ++ more) rest' := by
  simp [after]

lemma replyAt_after_tail (n : Network) (requests : List Request) (count : Nat) :
    (n.after requests n.replies.tail).replyAt count = n.replyAt (count + 1) := by
  rcases n with ⟨_, _ | _, _⟩ <;> rfl

lemma Delivers.after {n : Network} {c : Client} (h : n.Delivers c) (requests : List Request)
    (rest : List Reply) : (n.after requests rest).Delivers c :=
  ⟨h.reachable, h.sendable, h.rooted⟩

lemma reaches_after (n : Network) (requests : List Request) (rest : List Reply) :
    n.Reaches requests (n.after requests rest) := ⟨rest, rfl⟩

lemma reaches_self (n : Network) : n.Reaches [] n := ⟨n.replies, by simp [Network.after]⟩

namespace Reaches

variable {n n' n'' : Network} {requests more : List Request}

lemma trans (h : n.Reaches requests n') (h' : n'.Reaches more n'') :
    n.Reaches (requests ++ more) n'' := by
  obtain ⟨rest, rfl⟩ := h
  obtain ⟨rest', rfl⟩ := h'
  exact ⟨rest', after_after n requests more rest rest'⟩

lemma delivers {c : Client} (h : n.Reaches requests n') (hn : n.Delivers c) : n'.Delivers c := by
  obtain ⟨rest, rfl⟩ := h
  exact hn.after requests rest

end Reaches

end Network

/-! ### Requests -/

namespace Request

/-- What becomes of a request: it takes the next reply, or it cannot be sent. -/
lemma ask_eq (r : Request) (n : Network) (use : Answer → Except ClientError α) :
    (do let a ← r.ask; Action.ofExcept (use a) : Action Network α) n
      = if n.reachable && r.isSendable then
          (n.nextReply.outcome r.url.path.text use, n.after [r] n.replies.tail)
        else (.error (.http .send), n) := by
  rw [Action.bind_apply, ask, Action.bind_apply, deliver]
  by_cases hsent : (n.reachable && r.isSendable) = true
  · simp only [if_pos hsent, Network.nextReply, Network.after]
    rcases n.replies with _ | ⟨reply, rest⟩
    · rfl
    · simp only [List.headD_cons]
      cases hanswer : reply.answer? with
      | none => rw [Reply.outcome_of_none hanswer]; rfl
      | some a =>
          rw [Reply.outcome_of_some hanswer]
          simp only [Action.ofExcept]
          cases a.check (reply.pathFrom r.url.path.text) <;> rfl
  · simp only [if_neg hsent]

/-- The requests of a client can be sent if its base can be asked. -/
lemma isSendable_of_scheme {r : Request} {c : Client} (h : r.url.scheme = c.base.scheme) :
    r.isSendable = true ↔ c.base.scheme = "http" ∨ c.base.scheme = "https" := by
  rw [isSendable, h, Bool.or_eq_true, beq_iff_eq, beq_iff_eq]

/-- A request that is delivered takes the next reply. -/
lemma ask_of_reachable {n : Network} {c : Client} (hreach : n.reachable = true)
    (hbase : c.base.scheme = "http" ∨ c.base.scheme = "https") {r : Request}
    (hr : r.url.scheme = c.base.scheme) (use : Answer → Except ClientError α) :
    (do let a ← r.ask; Action.ofExcept (use a) : Action Network α) n
      = (n.nextReply.outcome r.url.path.text use, n.after [r] n.replies.tail) := by
  rw [ask_eq, if_pos]
  rw [hreach, (isSendable_of_scheme hr).mpr hbase, Bool.and_self]

lemma ask_of_delivers {n : Network} {c : Client} (hn : n.Delivers c) {r : Request}
    (hr : r.url.scheme = c.base.scheme) (use : Answer → Except ClientError α) :
    (do let a ← r.ask; Action.ofExcept (use a) : Action Network α) n
      = (n.nextReply.outcome r.url.path.text use, n.after [r] n.replies.tail) :=
  ask_of_reachable hn.reachable hn.sendable hr use

end Request

lemma Client.scheme_request (c : Client) (method : Method) (segments : List String)
    (body : String) : (c.request method segments body).url.scheme = c.base.scheme :=
  Url.scheme_appendSegments c.base segments

/-- The requests that an action makes. -/
def Action.sent (x : Action Network α) (n : Network) : List Request :=
  (x n).2.delivered.drop n.delivered.length

lemma Action.sent_of_reaches {x : Action Network α} {n n' : Network} {r : Except ClientError α}
    {requests : List Request} (h : x n = (r, n')) (hreaches : n.Reaches requests n') :
    x.sent n = requests := by
  obtain ⟨rest, rfl⟩ := hreaches
  rw [sent, h]
  exact List.drop_left

/-- What is done with a result makes no request. -/
lemma Action.sent_map (x : Action Network α) (f : α → β) (n : Network) :
    Action.sent (do let a ← x; return f a) n = x.sent n := by
  rw [sent, map_apply, sent]

/-- An action that asks for one thing makes one request. -/
lemma Action.sent_ask {n : Network} {c : Client} (hn : n.Delivers c) {r : Request}
    (hr : r.url.scheme = c.base.scheme) (use : Answer → Except ClientError α) :
    Action.sent (do let a ← r.ask; Action.ofExcept (use a)) n = [r] := by
  rw [sent, Request.ask_of_delivers hn hr]
  exact List.drop_left

end EventQuery
