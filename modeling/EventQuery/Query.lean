import EventQuery.Binding
import EventQuery.Options
import EventQuery.Selection

/-!
Queries: everything that has a JSON form of its own.

`Query.encode` is that form under some options, and `Query.text` is its text with
an indent. A switch has no form before it is bound to a stream.
-/

namespace EventQuery

/-- A value that can be written as a query or as a part of one. -/
inductive Query where
  | selection (value : Selection)
  | pattern (value : Pattern)
  | condition (value : Condition)
  | stream (value : Stream)
  | switch (value : Switch)

namespace Query

/-- The JSON form under some options. -/
def encode (o : QueryOptions) : Query → Except QueryError Json
  | selection s => do return .object (← s.encode o.numbers)
  | pattern p => do return .object (← p.encode (.top o.numbers))
  | condition c => do return .object (← c.encode (.top o.numbers))
  | stream s => do return .object (← s.encode (.top o.numbers))
  | switch _ => .error .unboundSwitch

/-- The text under some options; indent `0` is the compact text. -/
def text (indent : Nat) (o : QueryOptions) (q : Query) : Except QueryError String := do
  return Json.text indent (← q.encode o)

end Query

end EventQuery
