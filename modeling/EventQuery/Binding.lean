import EventQuery.Pattern
import EventQuery.Shape

/-!
Binding shapes to streams.

A shape becomes one condition for each of its leaves, depth first and in order.
The path of a leaf starts at the root of the event and has the field names that
lead to it. Fields and `all_of` are joined by `and`, `any_of` by `or`, always to
the right.

* `Constraint.bind` makes these conditions; its errors are an empty shape or an
  empty list of constraints, whichever comes first.
* `Stream.bind` binds a shape, or a switch with all its states, to a stream.
* `filterPattern` is a shape without a stream.
-/

namespace EventQuery

/-- The first name of every path: the root of an event. -/
def eventRoot : String := "event"

/-- A condition on the field at a path. -/
def leaf (stream : Option Stream) (path : List String) (c : Comparison) : Pattern :=
  .condition (.mk path c.op c.operand stream)

/-- The conjunction of the patterns of the fields of a shape. -/
def joinFields : List Pattern → Except QueryError Pattern
  | [] => .error .emptyShape
  | first :: rest => .ok (Pattern.foldRight .and first rest)

mutual

/-- The pattern of a constraint on the field at a path. -/
def Constraint.bind (stream : Option Stream) (path : List String) :
    Constraint → Except QueryError Pattern
  | .scalar v => .ok (leaf stream path ⟨.eq, v⟩)
  | .comparison c => .ok (leaf stream path c)
  | .nested fields => do joinFields (← bindFields stream path fields)
  | .anyOf [] => .error (.emptyCombinator .anyOf)
  | .anyOf (first :: rest) => do
    let p ← first.bind stream path
    let ps ← bindConstraints stream path rest
    return Pattern.foldRight .or p ps
  | .allOf [] => .error (.emptyCombinator .allOf)
  | .allOf (first :: rest) => do
    let p ← first.bind stream path
    let ps ← bindConstraints stream path rest
    return Pattern.foldRight .and p ps

/-- The patterns of constraints on one field. -/
def bindConstraints (stream : Option Stream) (path : List String) :
    List Constraint → Except QueryError (List Pattern)
  | [] => .ok []
  | c :: rest => do
    let p ← c.bind stream path
    let ps ← bindConstraints stream path rest
    return p :: ps

/-- The patterns of fields below a path. -/
def bindFields (stream : Option Stream) (path : List String) :
    List (String × Constraint) → Except QueryError (List Pattern)
  | [] => .ok []
  | (key, c) :: rest => do
    let p ← c.bind stream (path ++ [key])
    let ps ← bindFields stream path rest
    return p :: ps

end

/-- The pattern of a shape for the events of a stream, or of no stream. -/
def Shape.bind (stream : Option Stream) (s : Shape) : Except QueryError Pattern := do
  joinFields (← bindFields stream [eventRoot] s.fields)

/-- A shape as a pattern that is bound to no stream, as stream filters are. -/
def filterPattern (s : Shape) : Except QueryError Pattern := s.bind none

/-! ### Switches -/

/-- States that a stream passes through, one after the other. -/
structure Switch where
  states : List Shape
deriving Repr

/-- The switch with one state. -/
def Switch.start (state : Shape) : Switch := ⟨[state]⟩

/-- The switch with one more state. -/
def Switch.followedBy (s : Switch) (state : Shape) : Switch := ⟨s.states ++ [state]⟩

/-- What a stream can be bound to. -/
inductive Occurrence where
  | shape (value : Shape)
  | switch (value : Switch)
deriving Repr

namespace Stream

/-- Binds a shape or a switch to a stream. -/
def bind (s : Stream) : Occurrence → Except QueryError Pattern
  | .shape shape => shape.bind (some s)
  | .switch sw => do return .switch s (← sw.states.mapM (Shape.bind (some s)))

/-- Binds exactly one of the given to a stream. -/
def bindOnly (s : Stream) : List Occurrence → Except QueryError Pattern
  | [] => .error (.nothingToBind s.name)
  | [o] => s.bind o
  | os => .error (.tooManyArguments s.name os.length)

/-- The stream filtered by a shape. -/
def filtered (s : Stream) (shape : Shape) : Except QueryError Stream := do
  return s.withFilter (← filterPattern shape)

end Stream

end EventQuery
