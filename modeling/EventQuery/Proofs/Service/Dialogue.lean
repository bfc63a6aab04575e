import EventQuery.Proofs.Service.Reports

/-!
Dialogues: the requests of an action, each with the reply to it.

* `Dialogue`: a dialogue that heeds replies. It stops at the first reply that makes a request
  fail, with the error of that reply, and no other error that a status tells comes out of it.
* `Action.Heeds`: an action that heeds replies; `Action.Heeds.bind`: so does a sequence of
  two that do.
* `Action.Asks`: an action that makes one request; `Action.Asks.dialogue`: it heeds the reply
  to it if what it makes of an answer does.
-/

namespace EventQuery

variable {α β : Type}

/-! ### Dialogues -/

/-- The exchanges of an action and what they come to. What counts as a reply that makes a
request fail is left open. -/
inductive Dialogue (fails : Request → Reply → ClientError → Prop) :
    Network → List (Request × Reply) → Except ClientError α × Network → Prop where
  /-- Nothing is asked for any more, and the status of no reply is told. -/
  | ends {n : Network} {result : Except ClientError α} :
      IsTame result → Dialogue fails n [] (result, n)
  /-- A reply makes a request fail, and that is all. -/
  | stops {n : Network} {r : Request} {e : ClientError} : fails r n.nextReply e →
      Dialogue fails n [(r, n.nextReply)] (.error e, n.after [r] n.replies.tail)
  /-- Any other reply is taken, and what follows counts. -/
  | goesOn {n : Network} {r : Request} {exchanges : List (Request × Reply)}
      {out : Except ClientError α × Network} : (∀ e, ¬ fails r n.nextReply e) →
      Dialogue fails (n.after [r] n.replies.tail) exchanges out →
      Dialogue fails n ((r, n.nextReply) :: exchanges) out

namespace Dialogue

variable {fails : Request → Reply → ClientError → Prop} {n n' : Network}
  {exchanges more : List (Request × Reply)}

lemma of_ok (a : α) (n : Network) : Dialogue fails n [] (.ok a, n) :=
  .ends (.ok a)

/-- A dialogue with a result is taken up where it ended. -/
lemma append {a : α} {out : Except ClientError β × Network}
    (h : Dialogue fails n exchanges (.ok a, n')) (hmore : Dialogue fails n' more out) :
    Dialogue fails n (exchanges ++ more) out := by
  generalize hresult : ((.ok a, n') : Except ClientError α × Network) = first at h
  induction h with
  | ends =>
      cases hresult
      exact hmore
  | stops => cases hresult
  | goesOn hpasses _ ih => exact .goesOn hpasses (ih hresult)

/-- A dialogue that comes to an error has come to it, whatever was to be its result. -/
lemma of_error {e : ClientError}
    (h : Dialogue fails n exchanges ((.error e, n') : Except ClientError α × Network)) :
    Dialogue fails n exchanges ((.error e, n') : Except ClientError β × Network) := by
  generalize hresult : ((.error e, n') : Except ClientError α × Network) = first at h
  induction h with
  | ends htame =>
      cases hresult
      exact .ends (.error (htame e rfl))
  | stops hfails =>
      cases hresult
      exact .stops hfails
  | goesOn hpasses _ ih => exact .goesOn hpasses (ih hresult)

end Dialogue

/-! ### Actions that heed replies -/

namespace Action

/-- An action that heeds the replies that make a request fail, over any network. -/
def Heeds (fails : Request → Reply → ClientError → Prop) (x : Action Network α) : Prop :=
  ∀ n, ∃ exchanges, Dialogue fails n exchanges (x n)

namespace Heeds

variable {fails : Request → Reply → ClientError → Prop} {x : Action Network α} {n n' : Network}

lemma pure (a : α) : Heeds fails (Pure.pure a) := fun n => ⟨[], .of_ok a n⟩

lemma of_error {e : ClientError} (hx : x.Heeds fails) (h : x n = (.error e, n')) :
    ∃ exchanges, Dialogue fails n exchanges ((.error e, n') : Except ClientError β × Network) := by
  obtain ⟨exchanges, hfirst⟩ := hx n
  rw [h] at hfirst
  exact ⟨exchanges, hfirst.of_error⟩

lemma of_ok {a : α} {out : Except ClientError β × Network} (hx : x.Heeds fails)
    (h : x n = (.ok a, n')) (hmore : ∃ more, Dialogue fails n' more out) :
    ∃ exchanges, Dialogue fails n exchanges out := by
  obtain ⟨exchanges, hfirst⟩ := hx n
  obtain ⟨more, hmore⟩ := hmore
  rw [h] at hfirst
  exact ⟨exchanges ++ more, hfirst.append hmore⟩

/-- **Actions one after the other** heed replies if each of them does. -/
lemma bind {f : α → Action Network β} (hx : x.Heeds fails) (hf : ∀ a, (f a).Heeds fails) :
    Heeds fails (x >>= f) := by
  intro n
  rw [bind_apply]
  rcases hresult : x n with ⟨e | a, n'⟩
  · exact hx.of_error hresult
  · exact hx.of_ok hresult (hf a n')

lemma map (hx : x.Heeds fails) (f : α → β) : Heeds fails (do let a ← x; return f a) :=
  hx.bind fun a => pure (f a)

end Heeds

end Action

/-! ### One request -/

/-- What becomes of a request: it is exchanged for the next reply if it can be delivered. -/
def Network.exchange (n : Network) (r : Request) : List (Request × Reply) :=
  if n.reachable && r.isSendable then [(r, n.nextReply)] else []

/-- The requests of a client are delivered. -/
lemma Network.Delivers.exchange_eq {n : Network} {c : Client} (hn : n.Delivers c) {r : Request}
    (hr : r.url.scheme = c.base.scheme) : n.exchange r = [(r, n.nextReply)] := by
  rw [exchange, hn.reachable, (Request.isSendable_of_scheme hr).mpr hn.sendable, Bool.and_self,
    if_pos rfl]

namespace Action

/-- An action that makes one request, and what it makes of an answer that reports no
error. -/
def Asks (x : Action Network α) (r : Request) (use : Answer → Except ClientError α) : Prop :=
  x = do let a ← r.ask; ofExcept (use a)

variable {x : Action Network α} {r : Request} {use : Answer → Except ClientError α}

lemma Asks.apply (h : x.Asks r use) (n : Network) :
    x n = if n.reachable && r.isSendable then
        (n.nextReply.outcome r.url.path.text use, n.after [r] n.replies.tail)
      else (.error (.http .send), n) := by
  rw [Asks] at h
  rw [h, Request.ask_eq]

/-- What is done with the result of a request is done with what is made of its answer. -/
lemma Asks.map (h : x.Asks r use) (f : α → β) :
    Asks (do let a ← x; return f a) r fun a => (use a).map f := by
  rw [Asks] at h ⊢
  funext n
  rw [map_apply, h, bind_apply, bind_apply]
  rcases r.ask n with ⟨_ | a, n'⟩ <;> rfl

/-- **One request heeds its reply** if the reply makes it fail exactly where what is made of
it comes to an error that a status tells. -/
lemma Asks.dialogue {fails : Request → Reply → ClientError → Prop} (h : x.Asks r use)
    (hfails : ∀ reply e, fails r reply e → reply.outcome r.url.path.text use = .error e)
    (hreports : ∀ reply e, reply.outcome r.url.path.text use = .error e → e.isReport = true →
      fails r reply e) (n : Network) : Dialogue fails n (n.exchange r) (x n) := by
  rw [h.apply, Network.exchange]
  split
  · by_cases hfailed : ∃ e, fails r n.nextReply e
    · obtain ⟨e, he⟩ := hfailed
      rw [hfails _ e he]
      exact .stops he
    · refine .goesOn (not_exists.mp hfailed) (.ends fun e he => ?_)
      by_contra hreport
      rw [Bool.not_eq_false] at hreport
      exact hfailed ⟨e, hreports _ e he hreport⟩
  · exact .ends (.error rfl)

/-- One request heeds its reply if nothing that is made of an answer tells a status. -/
lemma Asks.dialogue_failsBy (h : x.Asks r use) (huse : ∀ a, IsTame (use a)) (n : Network) :
    Dialogue Request.FailsBy n (n.exchange r) (x n) :=
  h.dialogue (fun _ _ => Reply.outcome_eq_error) (fun _ _ => Reply.failsBy_of_outcome huse) n

lemma Asks.heeds (h : x.Asks r use) (huse : ∀ a, IsTame (use a)) : x.Heeds Request.FailsBy :=
  fun n => ⟨n.exchange r, h.dialogue_failsBy huse n⟩

end Action

end EventQuery
