import EventQuery.Pattern

/-!
Patterns as JSON.

`Pattern.encode` gives the object of a pattern, with its members in order.
Inside a switch the stream is named once, at the switch, and left out of the
conditions below it; the filter of a stream is written in full again.

An error is that of the first part that cannot be written: the literal of a
condition before its stream, an inner pattern before the deltas around it, parts
from left to right.
-/

namespace EventQuery

/-- What depends on where a pattern stands and on what was asked for. -/
structure EncodeContext where
  /-- How numbers are tagged. -/
  numbers : NumberPolicy
  /-- Whether the stream of a condition is already named further out. -/
  inSwitch : Bool
deriving Repr, DecidableEq

namespace EncodeContext

/-- The context of a whole query. -/
def top (numbers : NumberPolicy) : EncodeContext := ⟨numbers, false⟩

/-- The context of the states of a switch. -/
def enterSwitch (cx : EncodeContext) : EncodeContext := { cx with inSwitch := true }

/-- The context of the filter of a stream. -/
def enterFilter (cx : EncodeContext) : EncodeContext := { cx with inSwitch := false }

end EncodeContext

/-! ### The pieces of an object -/

/-- Sets a member to a delta, if there is one. -/
def setDelta (key : String) (d : Option Delta) (o : Object) : Except QueryError Object :=
  match d with
  | none => .ok o
  | some d => do return Fields.insert key (← d.encode) o

/-- The bounds of a width, as far as they are set. -/
def encodeBounds (min max : Option Delta) : Except QueryError Object := do
  setDelta "at-most" max (← setDelta "at-least" min [])

/-- Sets the width, unless it has no bounds. -/
def setWidth (bounds o : Object) : Object :=
  if bounds = [] then o else Fields.insert "for" (.object bounds) o

/-- The object of two patterns under a boolean operator. -/
def booleanObject (op : String) (lhs rhs : Object) : Object :=
  [("expr", .string op), ("args", .array [.object lhs, .object rhs])]

/-- The object of several patterns under a type. -/
def partsObject (type : String) (parts : List Json) : Object :=
  [("type", .string type), ("conds", .array parts)]

/-- The object of a switch: its stream by name only, then its states. -/
def switchObject (stream : String) (states : List Json) : Object :=
  [("type", .string "switch"), ("stream", .object [("name", .string stream)]),
    ("conds", .array states)]

/-- The members that every condition has. -/
def comparisonObject (path : List String) (op : Operator) (operand : Json) : Object :=
  [("path", .strings path), ("op", .string op.token), ("arg", operand)]

/-- The mark of a condition that is bound to a stream. -/
def spanMember : String × Json := ("type", .string "span")

/-! ### The trees -/

mutual

/-- The object of a pattern. -/
def Pattern.encode (cx : EncodeContext) : Pattern → Except QueryError Object
  | .condition c => c.encode cx
  | .and lhs rhs => do
    let l ← lhs.encode cx
    let r ← rhs.encode cx
    return booleanObject "&&" l r
  | .or lhs rhs => do
    let l ← lhs.encode cx
    let r ← rhs.encode cx
    return booleanObject "||" l r
  | .serial parts => do return partsObject "serial" (← encodeParts cx parts)
  | .parallel kind parts => do return partsObject kind.name (← encodeParts cx parts)
  | .spacing inner after within => do
    let o ← inner.encode cx
    setDelta "within" within (← setDelta "after" after o)
  | .width inner min max => do
    let o ← inner.encode cx
    return setWidth (← encodeBounds min max) o
  | .switch stream states => do
    return switchObject stream.name (← encodeParts cx.enterSwitch states)

/-- The objects of a list of patterns. -/
def encodeParts (cx : EncodeContext) : List Pattern → Except QueryError (List Json)
  | [] => .ok []
  | p :: rest => do
    let o ← p.encode cx
    let os ← encodeParts cx rest
    return .object o :: os

/-- The object of a condition: path, operator and literal, and for a bound one
its stream and its mark. -/
def Condition.encode (cx : EncodeContext) : Condition → Except QueryError Object
  | .mk path op operand none => do
    return comparisonObject path op (← operand.encode cx.numbers)
  | .mk path op operand (some stream) => do
    let arg ← operand.encode cx.numbers
    if cx.inSwitch then return comparisonObject path op arg ++ [spanMember]
    else do
      let s ← stream.encode cx
      return comparisonObject path op arg ++ [("stream", .object s), spanMember]

/-- The object of a stream: its name, and its filter if it has one. -/
def Stream.encode (cx : EncodeContext) : Stream → Except QueryError Object
  | .mk name none => .ok [("name", .string name)]
  | .mk name (some filter) => do
    let f ← filter.encode cx.enterFilter
    return [("name", .string name), ("filter", .object f)]

end

end EventQuery
