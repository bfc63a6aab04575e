import EventQuery.Error
import EventQuery.Json.Document
import EventQuery.Service.Config

/-!
Requests, replies, and the network between them.

The network is a value: the replies that are still to come, and the requests
that have been delivered. An `Action` takes such a state to a result and the
state after it, which outlives an error. What carries the requests is not part of
it: it follows redirects, and it makes a text of the bytes of a body.

* `Request.deliver` hands a request over and takes the next reply.
* `Answer.check` sorts out the replies that report an error.
* `Request.ask` does both; what it accepts has used up a reply
  (`Request.ask_shorter`), so that reading pages comes to an end.
-/

namespace EventQuery

/-! ### Requests and replies -/

/-- What a request does with its resource. -/
inductive Method where
  | get
  | post
  | put
  | delete
deriving Repr, DecidableEq

/-- The word for a method. -/
def Method.name : Method → String
  | get => "GET"
  | post => "POST"
  | put => "PUT"
  | delete => "DELETE"

/-- A request, with its headers in the order of their names. -/
structure Request where
  method : Method
  url : Url
  headers : Fields String
  body : String
deriving Repr, DecidableEq

/-- The body of an answer. -/
inductive Body where
  /-- The bytes, and the text that they are by what the headers say of them. -/
  | whole (bytes : List UInt8) (text : String)
  /-- The connection is lost before the end. -/
  | brokenOff
deriving Repr, DecidableEq

/-- A text as a body: in the usual form, with a byte-order mark in front that is no
part of the text. -/
def Body.ofText (s : String) : Body := .whole (utf8 s) (withoutMark s)

instance : Coe String Body := ⟨Body.ofText⟩

/-- What the service sends back. -/
structure Answer where
  status : Nat
  headers : List (String × String)
  body : Body
deriving Repr, DecidableEq

/-- What comes back for a request: nothing before the connection is closed, an
answer, or an answer from another path, to which the service has redirected the
request. Redirects are followed without being asked for, so what counts is only
where they end. -/
inductive Reply where
  | dropped
  | answer (value : Answer)
  | redirected (path : String) (value : Answer)
deriving Repr, DecidableEq

namespace Reply

/-- The answer, if there is one. -/
def answer? : Reply → Option Answer
  | dropped => none
  | answer a | redirected _ a => some a

/-- The path that an answer to a request for a path comes from. -/
def pathFrom (path : String) : Reply → String
  | redirected path' _ => path'
  | _ => path

end Reply

/-- The replies to come, the requests delivered so far, and whether requests
can be delivered at all. -/
structure Network where
  reachable : Bool
  replies : List Reply
  delivered : List Request
deriving Repr

/-! ### Errors -/

/-- The point at which an exchange failed: before there was an answer, or with
its body. -/
inductive HttpStage where
  | send
  | decode
deriving Repr, DecidableEq

/-- Why an operation of a client failed. -/
inductive ClientError where
  /-- There was no answer, or its body is not what was wanted. -/
  | http (stage : HttpStage)
  /-- The query cannot be written. -/
  | query (error : QueryError)
  | authentication
  | badQuery (message : String)
  | notFound (path : String)
  | server (status : Nat)
  | api (status : Nat) (message : String)
  | missingHeader (name : String)
  | config (error : ConfigError)
  /-- A header holds something else than a timestamp. -/
  | invalidTimestamp (given : String)
deriving Repr

/-- The wording of an error. For an exchange that failed and for a bad timestamp
it is only the part that does not depend on how the failure was found. -/
def ClientError.message : ClientError → String
  | http _ => "HTTP error"
  | query error => error.message
  | authentication => "Invalid API key"
  | badQuery m => "Bad query: " ++ m
  | notFound path => "Not found: " ++ path
  | server status => "Something went wrong (status " ++ integerText status ++ ")"
  | api status m => "API error " ++ integerText status ++ ": " ++ m
  | missingHeader name => "Response is missing the `" ++ name ++ "` header"
  | config error => "Config error: " ++ error.reason
  | invalidTimestamp given => "Invalid timestamp: " ++ given

/-! ### Actions -/

/-- A computation that changes a state and may fail; a failure keeps the state
that it was met in. -/
def Action (σ α : Type) : Type := σ → Except ClientError α × σ

namespace Action

variable {σ α β : Type}

instance : Monad (Action σ) where
  pure a := fun s => (.ok a, s)
  bind x f := fun s => match x s with
    | (.ok a, s') => f a s'
    | (.error e, s') => (.error e, s')

/-- The action that fails. -/
def fail (e : ClientError) : Action σ α := fun s => (.error e, s)

/-- The action that has a result already. -/
def ofExcept (r : Except ClientError α) : Action σ α := fun s => (r, s)

theorem bind_apply (x : Action σ α) (f : α → Action σ β) (s : σ) :
    (x >>= f) s = match x s with
      | (.ok a, s') => f a s'
      | (.error e, s') => (.error e, s') := rfl

end Action

/-! ### Answers -/

namespace Answer

/-- The bytes of the body, if they could be read; two statuses never have any. -/
def bytes? (a : Answer) : Option (List UInt8) :=
  if a.status = 204 ∨ a.status = 304 then some []
  else match a.body with
    | .whole bytes _ => some bytes
    | .brokenOff => none

/-- The body as a text; one that could not be read is the empty text. -/
def text (a : Answer) : String :=
  if a.status = 204 ∨ a.status = 304 then ""
  else match a.body with
    | .whole _ text => text
    | .brokenOff => ""

/-- The value of a header: names are compared without regard to case, the first
one counts, and it has to be visible ASCII, spaces and tabs. -/
def header? (a : Answer) (name : String) : Option String :=
  let lower (s : String) : List Char := s.toList.map Char.toLower
  match a.headers.find? fun h => lower h.1 == lower name with
  | some (_, value) =>
    if value.toList.all fun c => c == '\t' || (0x20 ≤ c.toNat && c.toNat < 0x7f) then some value
    else none
  | none => none

/-- The message of an answer that reports an error: the member `message` of the
body if it has one that is a string, else the body as it is. -/
def message (a : Answer) : String :=
  match (Json.parse? a.text).bind (Json.member? "message") with
  | some (.string m) => m
  | _ => a.text

/-- The error that an answer from a path reports, if it does. -/
def error? (path : String) (a : Answer) : Option ClientError :=
  if a.status < 400 ∨ 600 ≤ a.status then none
  else if a.status = 401 then some .authentication
  else if a.status = 400 then some (.badQuery a.message)
  else if a.status = 404 then some (.notFound path)
  else if 500 ≤ a.status then some (.server a.status)
  else some (.api a.status a.message)

/-- An answer that reports no error. -/
def check (path : String) (a : Answer) : Except ClientError Answer :=
  match a.error? path with
  | some e => .error e
  | none => .ok a

/-- What the body says. -/
def decode {α : Type} (read : Document → Option α) (a : Answer) : Except ClientError α :=
  match (a.bytes?.bind Document.readBytes?).bind read with
  | some v => .ok v
  | none => .error (.http .decode)

end Answer

/-! ### Exchanges -/

namespace Network

/-- A network that nothing has been sent over yet. -/
def ofReplies (replies : List Reply) : Network := ⟨true, replies, []⟩

/-- What comes back when no reply is left. -/
def exhausted : Answer := ⟨500, [], ""⟩

end Network

namespace Request

/-- Whether a request is of a kind that can be sent. -/
def isSendable (r : Request) : Bool := r.url.scheme == "http" || r.url.scheme == "https"

/-- Hands a request over and takes the next reply, as the answer and the path that
it comes from. -/
def deliver (r : Request) : Action Network (String × Answer) := fun n =>
  if n.reachable && r.isSendable then
    let path := r.url.path.text
    let delivered := n.delivered ++ [r]
    match n.replies with
    | [] => (.ok (path, Network.exhausted), { n with delivered })
    | reply :: rest => match reply.answer? with
      | none => (.error (.http .send), { n with replies := rest, delivered })
      | some a => (.ok (reply.pathFrom path, a), { n with replies := rest, delivered })
  else (.error (.http .send), n)

/-- Hands a request over and waits for an answer that reports no error. -/
def ask (r : Request) : Action Network Answer := do
  let (path, a) ← r.deliver
  Action.ofExcept (a.check path)

/-- An answer that is accepted has used up a reply. -/
theorem ask_shorter {r : Request} {n n' : Network} {a : Answer} (h : r.ask n = (.ok a, n')) :
    n'.replies.length < n.replies.length := by
  simp only [ask, Action.bind_apply, deliver] at h
  split at h
  · rename_i arrival s hd
    split at hd
    · split at hd
      · -- no reply is left, and what comes back instead reports an error
        cases hd
        simp [Action.ofExcept, Answer.check, Answer.error?, Network.exhausted] at h
      · rename_i hr
        split at hd
        · simp at hd
        · cases hd
          simp only [Action.ofExcept, Prod.mk.injEq] at h
          rw [← h.2, hr]
          simp
    · simp at hd
  · simp at h

end Request

end EventQuery
