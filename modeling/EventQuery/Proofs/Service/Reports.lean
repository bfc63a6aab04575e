import EventQuery.Proofs.Json.Grammar
import EventQuery.Proofs.Service.Exchange

/-!
What the replies that report an error come to.

* `Answer.Says`: the message of an answer, `Answer.Reports`: the error that its status tells.
* `Answer.check_eq_error_iff`: an answer that is checked fails with the error that it reports.
* `Request.FailsBy`: a reply that makes any request fail, `Request.RefusedBy`: one that makes
  the request of a query fail.
* `Reply.outcome_eq_error`, `Reply.failsBy_of_outcome`: what is made of an answer hides no
  error and adds none that a status could tell.
-/

namespace EventQuery

variable {α β : Type} {a : Answer} {r : Request} {reply : Reply} {path : String} {e : ClientError}

/-! ### Messages -/

namespace Answer

/-- The text of the body is that of a JSON object whose member `message` is this string. The
grammar says what the text of a document is; what cannot be held counts as no JSON: arrays and
objects nested too deeply, numbers beyond all doubles and halves of characters. -/
def HasMember (a : Answer) (m : String) : Prop :=
  ∃ d o, Document.IsSpelled d a.text ∧ d.nesting ≤ Document.maxNesting ∧
    d.valueBy? RawNumber.scaled? = some (.object o) ∧ Fields.find? "message" o = some (.string m)

/-- The message of an answer: that of its body if it has one, else the text of the body. -/
inductive Says (a : Answer) : String → Prop where
  | member {m : String} : a.HasMember m → Says a m
  | body : (∀ m, ¬ a.HasMember m) → Says a a.text

lemma hasMember_iff {m : String} : a.HasMember m ↔
    ∃ o, Json.parse? a.text = some (.object o) ∧ Fields.find? "message" o = some (.string m) := by
  simp only [Json.parse?, Option.bind_eq_some_iff, Document.value?_eq_some_iff,
    Document.read?_eq_some_iff]
  constructor
  · rintro ⟨d, o, hspelled, hnesting, hvalue, hfind⟩
    exact ⟨o, ⟨d, hspelled, hnesting, hvalue⟩, hfind⟩
  · rintro ⟨o, ⟨d, hspelled, hnesting, hvalue⟩, hfind⟩
    exact ⟨d, o, hspelled, hnesting, hvalue, hfind⟩

lemma message_of_hasMember {m : String} (h : a.HasMember m) : a.message = m := by
  obtain ⟨o, hparse, hfind⟩ := hasMember_iff.mp h
  rw [message, hparse, Option.bind_some, Json.member?, hfind]

lemma message_of_not_hasMember (h : ∀ m, ¬ a.HasMember m) : a.message = a.text := by
  rw [message]
  split
  · rename_i m hmember
    obtain ⟨v, hparse, hfind⟩ := Option.bind_eq_some_iff.mp hmember
    cases v with
    | object o => exact absurd (hasMember_iff.mpr ⟨o, hparse, hfind⟩) (h m)
    | _ => cases hfind
  · rfl

/-- The text of a document that cannot be held has no such member. -/
lemma not_hasMember_of_isSpelled {d : Document} (h : d.IsSpelled a.text)
    (hd : d.value? Document.maxNesting = none) (m : String) : ¬ a.HasMember m := by
  intro hm
  obtain ⟨o, hparse, -⟩ := hasMember_iff.mp hm
  rw [Json.parse?, Document.read?_eq_some_iff.mpr h, Option.bind_some, hd] at hparse
  cases hparse

/-- Every answer has its one message. -/
lemma says_iff {m : String} : a.Says m ↔ a.message = m := by
  constructor
  · rintro (h | h)
    · exact message_of_hasMember h
    · exact message_of_not_hasMember h
  · rintro rfl
    by_cases h : ∃ m, a.HasMember m
    · obtain ⟨m, hm⟩ := h
      rw [message_of_hasMember hm]
      exact .member hm
    · rw [message_of_not_hasMember (not_exists.mp h)]
      exact .body (not_exists.mp h)

/-! ### Errors -/

/-- The error that an answer from a path reports, by its status. -/
inductive Reports (path : String) (a : Answer) : ClientError → Prop where
  | authentication : a.status = 401 → Reports path a .authentication
  | badQuery {m : String} : a.status = 400 → a.Says m → Reports path a (.badQuery m)
  | notFound : a.status = 404 → Reports path a (.notFound path)
  | server : 500 ≤ a.status → a.status < 600 → Reports path a (.server a.status)
  | api {m : String} : 400 ≤ a.status → a.status < 500 → a.status ∉ [400, 401, 404] →
      a.Says m → Reports path a (.api a.status m)

end Answer

/-- The errors that a status tells. -/
def ClientError.isReport : ClientError → Bool
  | authentication | badQuery _ | notFound _ | server _ | api .. => true
  | http _ | query _ | missingHeader _ | config _ | invalidTimestamp _ => false

/-- A result is tame if it is no error that a status tells. -/
def IsTame (result : Except ClientError α) : Prop :=
  ∀ e, result = .error e → e.isReport = false

namespace IsTame

lemma ok (v : α) : IsTame (.ok v : Except ClientError α) := by
  intro e h
  cases h

lemma error (h : e.isReport = false) : IsTame (.error e : Except ClientError α) := by
  intro e' h'
  cases h'
  exact h

lemma bind {x : Except ClientError α} {f : α → Except ClientError β} (hx : IsTame x)
    (hf : ∀ v, IsTame (f v)) : IsTame (x >>= f) := by
  cases x with
  | error e => exact error (hx e rfl)
  | ok v => exact hf v

lemma map {x : Except ClientError α} (hx : IsTame x) (f : α → β) : IsTame (x.map f) := by
  cases x with
  | error e => exact error (hx e rfl)
  | ok v => exact ok (f v)

lemma decode (read : Document → Option α) (a : Answer) : IsTame (a.decode read) := by
  rw [Answer.decode]
  split
  · exact ok _
  · exact error rfl

end IsTame

namespace Answer

lemma Reports.status_mem (h : a.Reports path e) : 400 ≤ a.status ∧ a.status < 600 := by
  cases h <;> omega

lemma Reports.error?_eq (h : a.Reports path e) : a.error? path = some e := by
  have hstatus : ¬ (a.status < 400 ∨ 600 ≤ a.status) := by
    have := h.status_mem
    omega
  rw [error?, if_neg hstatus]
  cases h with
  | authentication h => simp [h]
  | badQuery h hm => simp [h, says_iff.mp hm]
  | notFound h => simp [h]
  | server h h' =>
      rw [if_neg (by omega), if_neg (by omega), if_neg (by omega), if_pos h]
  | api h h' hother hm =>
      simp only [List.mem_cons, List.not_mem_nil, or_false, not_or] at hother
      rw [if_neg hother.2.1, if_neg hother.1, if_neg hother.2.2, if_neg (by omega),
        says_iff.mp hm]

lemma Reports.unique {e' : ClientError} (h : a.Reports path e) (h' : a.Reports path e') :
    e = e' :=
  Option.some.inj (h.error?_eq.symm.trans h'.error?_eq)

/-- An answer whose status is that of an error reports one. -/
lemma exists_reports (hlow : 400 ≤ a.status) (hhigh : a.status < 600) (path : String) :
    ∃ e, a.Reports path e := by
  have hsays : a.Says a.message := says_iff.mpr rfl
  by_cases hauth : a.status = 401
  · exact ⟨_, .authentication hauth⟩
  by_cases hbad : a.status = 400
  · exact ⟨_, .badQuery hbad hsays⟩
  by_cases hmissing : a.status = 404
  · exact ⟨_, .notFound hmissing⟩
  by_cases hserver : 500 ≤ a.status
  · exact ⟨_, .server hserver hhigh⟩
  · exact ⟨_, .api hlow (by omega) (by simp [hauth, hbad, hmissing]) hsays⟩

/-- **An answer that is checked fails with the error that it reports.** -/
lemma check_eq_error_iff : a.check path = .error e ↔ a.Reports path e := by
  constructor
  · intro h
    have hrange : 400 ≤ a.status ∧ a.status < 600 := by
      by_contra hout
      have hok : a.check path = .ok a := check_eq_ok_iff.mpr ⟨by omega, rfl⟩
      rw [hok] at h
      cases h
    obtain ⟨e', he'⟩ := exists_reports hrange.1 hrange.2 path
    rw [check, he'.error?_eq] at h
    cases h
    exact he'
  · intro h
    rw [check, h.error?_eq]

/-- The statuses that report an error, and the error is only one. -/
lemma existsUnique_reports_iff :
    (∃! e, a.Reports path e) ↔ 400 ≤ a.status ∧ a.status < 600 := by
  constructor
  · rintro ⟨e, he, -⟩
    exact he.status_mem
  · rintro ⟨hlow, hhigh⟩
    obtain ⟨e, he⟩ := exists_reports hlow hhigh path
    exact ⟨e, he, fun e' he' => he'.unique he⟩

end Answer

/-! ### Replies -/

namespace Request

/-- A reply makes a request fail: there is no answer, or one that reports an error. The path that
counts is the one that the answer comes from. -/
inductive FailsBy (r : Request) (reply : Reply) : ClientError → Prop where
  | dropped : reply.answer? = none → FailsBy r reply (.http .send)
  | reported {a : Answer} {e : ClientError} : reply.answer? = some a →
      a.Reports (reply.pathFrom r.url.path.text) e → FailsBy r reply e

/-- A reply makes the request of a query fail: also an answer that reports no error does,
with any status but one. -/
inductive RefusedBy (r : Request) (reply : Reply) : ClientError → Prop where
  | failed {e : ClientError} : r.FailsBy reply e → RefusedBy r reply e
  | unaccepted {a : Answer} {m : String} : reply.answer? = some a →
      a.status < 400 ∨ 600 ≤ a.status → a.status ≠ 201 → a.Says m →
      RefusedBy r reply (.api a.status m)

end Request

namespace Reply

variable {use : Answer → Except ClientError α}

/-- What is made of an answer hides no error. -/
lemma outcome_eq_error (h : r.FailsBy reply e) :
    reply.outcome r.url.path.text use = .error e := by
  cases h with
  | dropped hanswer => exact outcome_of_none hanswer _ _
  | reported hanswer h =>
      rw [outcome_of_some hanswer, Answer.check_eq_error_iff.mpr h, error_bind]

/-- An answer that reports no error is made use of. -/
lemma outcome_eq_use (hanswer : reply.answer? = some a) (h : a.status < 400 ∨ 600 ≤ a.status) :
    reply.outcome path use = use a := by
  rw [outcome_of_some hanswer, Answer.check_eq_ok_iff.mpr ⟨h, rfl⟩, ok_bind]

/-- A request comes to an error by a reply that makes it fail, or by what is made of an
answer that does not. -/
lemma outcome_eq_error_iff : reply.outcome r.url.path.text use = .error e ↔
    r.FailsBy reply e ∨
      ∃ a, reply.answer? = some a ∧ (a.status < 400 ∨ 600 ≤ a.status) ∧ use a = .error e := by
  constructor
  · intro h
    cases hanswer : reply.answer? with
    | none =>
        rw [outcome_of_none hanswer] at h
        cases h
        exact .inl (.dropped hanswer)
    | some a =>
        by_cases hstatus : a.status < 400 ∨ 600 ≤ a.status
        · rw [outcome_eq_use hanswer hstatus] at h
          exact .inr ⟨a, rfl, hstatus, h⟩
        · have hrange : 400 ≤ a.status ∧ a.status < 600 := by omega
          obtain ⟨e', he'⟩ :=
            Answer.exists_reports hrange.1 hrange.2 (reply.pathFrom r.url.path.text)
          rw [outcome_eq_error (.reported hanswer he')] at h
          cases h
          exact .inl (.reported hanswer he')
  · rintro (h | ⟨a, hanswer, hstatus, h⟩)
    · exact outcome_eq_error h
    · rw [outcome_eq_use hanswer hstatus, h]

/-- What is made of an answer adds no error that a status tells. -/
lemma failsBy_of_outcome (huse : ∀ a, IsTame (use a))
    (h : reply.outcome r.url.path.text use = .error e) (he : e.isReport = true) :
    r.FailsBy reply e := by
  rcases outcome_eq_error_iff.mp h with h | ⟨a, -, -, h⟩
  · exact h
  · rw [huse a e h] at he
    cases he

end Reply

end EventQuery
