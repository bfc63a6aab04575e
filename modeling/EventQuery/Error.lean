import EventQuery.Double.Basic
import EventQuery.Json.Printer

/-!
What can be wrong with a query.

An error is a cause with the parts that its wording needs; the wording is in
`QueryError.message` alone.
-/

namespace EventQuery

/-- The operations that combine several conditions into one. -/
inductive Combinator where
  | and
  | or
  | anyOf
  | allOf
deriving Repr, DecidableEq

/-- The name by which a combinator is called. -/
def Combinator.name : Combinator → String
  | and => "and"
  | or => "or"
  | anyOf => "any_of"
  | allOf => "all_of"

/-- What was found where a scalar is wanted. -/
inductive NonScalar where
  | null
  | array
  | object
  | number (value : NonFinite)
deriving Repr, DecidableEq

/-- A name for what was found. -/
def NonScalar.describe : NonScalar → String
  | null => "null"
  | array => "array"
  | object => "object"
  | number value => "non-finite number " ++ value.name

/-- A date with a time of day, as it was asked for. -/
structure CivilTime where
  year : Int
  month : Nat
  day : Nat
  hour : Nat
  minute : Nat
  second : Nat
deriving Repr, DecidableEq

/-- Why a query cannot be built or written. -/
inductive QueryError where
  /-- A combinator was given nothing to combine. -/
  | emptyCombinator (combinator : Combinator)
  /-- A shape without fields would match every event. -/
  | emptyShape
  /-- A selection without conditions would select everything. -/
  | emptySelection
  /-- A switch has no text of its own before it is bound to a stream. -/
  | unboundSwitch
  /-- A stream was bound to several things at once. -/
  | tooManyArguments (stream : String) (got : Nat)
  /-- A stream was bound to nothing. -/
  | nothingToBind (stream : String)
  /-- Something that is no scalar stands where one is wanted. -/
  | invalidScalar (found : NonScalar)
  /-- A value that is no object stands where a shape is wanted. -/
  | invalidShape (found : Json)
  /-- The parts of a timestamp name no instant. -/
  | invalidTimestamp (asked : CivilTime)
  /-- An amount of a delta has no digits. -/
  | nonFiniteDelta (amount : NonFinite)
deriving Repr

/-- A number with its sign, with zeros between the sign and the digits up to a
width in which the sign counts. -/
def signedPadded (width : Nat) (n : Int) : String :=
  if n < 0 then String.ofList ('-' :: paddedDigits (width - 1) n.natAbs)
  else String.ofList (paddedDigits width n.natAbs)

/-- Two digits, or more if two are not enough. -/
def twoDigits (n : Nat) : String := String.ofList (paddedDigits 2 n)

/-- A date and time with its parts as they are, whether or not they name an
instant. -/
def CivilTime.text (t : CivilTime) : String :=
  signedPadded 4 t.year ++ "-" ++ twoDigits t.month ++ "-" ++ twoDigits t.day ++ "T" ++
    twoDigits t.hour ++ ":" ++ twoDigits t.minute ++ ":" ++ twoDigits t.second ++ "Z"

/-- The complaint about an amount of a delta, without saying where it was
met. -/
def nonFiniteDeltaText (amount : NonFinite) : String :=
  "non-finite delta unit " ++ amount.name

/-- The wording of an error. -/
def QueryError.message : QueryError → String
  | emptyCombinator c => c.name ++ "() cannot have zero arguments"
  | emptyShape => "`*` not supported yet: condition shape has no fields"
  | emptySelection => "select * not supported yet"
  | unboundSwitch => "must bind a switch to a stream before producing an AST"
  | tooManyArguments stream got =>
    "stream `" ++ stream ++ "` binds a single shape or switch, got " ++ integerText got
  | nothingToBind stream => "can't bind stream `" ++ stream ++ "` to nothing"
  | invalidScalar found => "Invalid scalar type: " ++ found.describe
  | invalidShape found => "Invalid shape: expected a JSON object, got " ++ found.compact
  | invalidTimestamp asked => "Invalid timestamp: " ++ asked.text
  | nonFiniteDelta amount => "JSON error: " ++ nonFiniteDeltaText amount

end EventQuery
