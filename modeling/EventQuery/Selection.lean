import EventQuery.Pattern.Encode
import EventQuery.Time.Text

/-!
Selections: patterns within a window of time.

A window has a start, an end, both or neither. Its bounds are texts that are
written as they are; a timestamp becomes one by `Timestamp.text`.
-/

namespace EventQuery

/-- A bound in time, as text. -/
structure Bound where
  text : String
deriving Repr, DecidableEq

/-- The bound at a timestamp, in the zone of the timestamp. -/
def Timestamp.bound (t : Timestamp) : Bound := ⟨t.text⟩

/-- The bound at an instant, in universal time. -/
def Instant.bound (t : Instant) : Bound := (Timestamp.mk t 0).bound

/-- A window of time, open on the sides that have no bound. -/
structure Window where
  start : Option Bound
  stop : Option Bound
deriving Repr, DecidableEq

/-- Patterns in a window of time: the root of a query. -/
structure Selection where
  root : Pattern
  window : Window

namespace Window

/-- The window of all times. -/
def all : Window := ⟨none, none⟩

/-- The window with another start. -/
def startingAt (w : Window) (b : Bound) : Window := { w with start := some b }

/-- The window with another end. -/
def endingAt (w : Window) (b : Bound) : Window := { w with stop := some b }

/-- The window with another start and another end. -/
def between (w : Window) (start stop : Bound) : Window := (w.startingAt start).endingAt stop

/-- The members that tell a window: both bounds, or the one there is. -/
def members (w : Window) : Object :=
  match w.start, w.stop with
  | some s, some e => [("between", .strings [s.text, e.text])]
  | some s, none => [("after", .string s.text)]
  | none, some e => [("before", .string e.text)]
  | none, none => []

/-- Selects where all of the patterns hold; there has to be one. -/
def select (w : Window) : List Pattern → Except QueryError Selection
  | [] => .error .emptySelection
  | first :: rest => .ok ⟨Pattern.foldRight .and first rest, w⟩

end Window

/-- The object of a selection: its pattern, then its window. -/
def Selection.encode (numbers : NumberPolicy) (s : Selection) : Except QueryError Object := do
  return ("select", .object (← s.root.encode (.top numbers))) :: s.window.members

end EventQuery
