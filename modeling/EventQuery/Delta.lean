import EventQuery.Error
import EventQuery.Json.Document

/-!
Deltas: relative durations as amounts of calendar and clock units.

A unit that was never set is not there, which differs from an amount of zero.
A delta is written with its units from years to seconds, in whatever order they
were set (`Delta.encode`), whole amounts as integers.
-/

namespace EventQuery

/-- A unit of time, from the longest to the shortest. -/
inductive TimeUnit where
  | years
  | months
  | weeks
  | days
  | hours
  | minutes
  | seconds
deriving Repr, DecidableEq

namespace TimeUnit

/-- All units in the order in which they are written. -/
def all : List TimeUnit := [years, months, weeks, days, hours, minutes, seconds]

/-- The name of a unit. -/
def name : TimeUnit → String
  | years => "years"
  | months => "months"
  | weeks => "weeks"
  | days => "days"
  | hours => "hours"
  | minutes => "minutes"
  | seconds => "seconds"

/-- The unit with this name. -/
def ofName? (name : String) : Option TimeUnit := all.find? fun u => u.name == name

end TimeUnit

/-- A relative duration: the amount of each unit that was set. -/
structure Delta where
  years : Option Double
  months : Option Double
  weeks : Option Double
  days : Option Double
  hours : Option Double
  minutes : Option Double
  seconds : Option Double
deriving Repr, DecidableEq

namespace Delta

/-- No unit is set. -/
def empty : Delta := ⟨none, none, none, none, none, none, none⟩

/-- The amount of a unit. -/
def amount? (d : Delta) : TimeUnit → Option Double
  | .years => d.years
  | .months => d.months
  | .weeks => d.weeks
  | .days => d.days
  | .hours => d.hours
  | .minutes => d.minutes
  | .seconds => d.seconds

/-- Sets the amount of a unit. -/
def set (d : Delta) (unit : TimeUnit) (amount : Double) : Delta :=
  match unit with
  | .years => { d with years := some amount }
  | .months => { d with months := some amount }
  | .weeks => { d with weeks := some amount }
  | .days => { d with days := some amount }
  | .hours => { d with hours := some amount }
  | .minutes => { d with minutes := some amount }
  | .seconds => { d with seconds := some amount }

/-- Sets units one after the other, starting from none. -/
def ofList (calls : List (TimeUnit × Double)) : Delta :=
  calls.foldl (fun d c => d.set c.1 c.2) empty

/-- Whether no unit is set. -/
def isEmpty (d : Delta) : Bool := TimeUnit.all.all fun u => (d.amount? u).isNone

/-- Equality of optional amounts. -/
def equalAmount : Option Double → Option Double → Bool
  | none, none => true
  | some x, some y => x.equal y
  | _, _ => false

/-- Equality: the same units are set to equal amounts. -/
def equal (d e : Delta) : Bool :=
  TimeUnit.all.all fun u => equalAmount (d.amount? u) (e.amount? u)

/-! ### Writing -/

/-- An amount: a whole one as an integer, any other as a double. -/
def encodeAmount : Double → Except QueryError Json
  | .nonFinite x => .error (.nonFiniteDelta x)
  | .finite x => match x.toInt64? with
    | some n => .ok (.integer n.toInt)
    | none => .ok (.double x)

/-- The members for some units, in their order; those that are not set are left
out. -/
def encodeUnits (d : Delta) : List TimeUnit → Except QueryError Object
  | [] => .ok []
  | u :: rest => match d.amount? u with
    | none => encodeUnits d rest
    | some x => do
      let v ← encodeAmount x
      let members ← encodeUnits d rest
      return (u.name, v) :: members

/-- The written form: the units that are set, from years to seconds. -/
def encode (d : Delta) : Except QueryError Json := do
  return .object (← d.encodeUnits TimeUnit.all)

/-! ### Reading -/

/-- A number as a double, which is read by `double?` if it is no integer. -/
def readAmountBy? (double? : RawNumber → Option Finite) : Document → Option Double
  | .number n => (n.valueBy? double?).map fun
    | .integer i => .ofInt i
    | .double x => .finite x
  | _ => none

/-- The delta of a list of amounts, one for each unit. -/
def ofAmounts? : List (Option Double) → Option Delta
  | [years, months, weeks, days, hours, minutes, seconds] =>
    some ⟨years, months, weeks, days, hours, minutes, seconds⟩
  | _ => none

/-- Reads a delta from a record of its units: `null` is a unit that is not set,
and no other name is allowed. -/
def readBy? (double? : RawNumber → Option Finite) (d : Document) : Option Delta :=
  let names := TimeUnit.all.map TimeUnit.name
  if d.onlyNames names then
    (d.members? names).bind fun ms =>
      (ms.mapM (Document.optional? (readAmountBy? double?))).bind ofAmounts?
  else none

/-- Reads a delta from a text over a way of reading doubles. -/
def parseBy? (double? : RawNumber → Option Finite) (text : String) : Option Delta :=
  (Document.read? text).bind (readBy? double?)

/-- Reads a delta from a text. -/
def parse? (text : String) : Option Delta := parseBy? RawNumber.scaled? text

end Delta

end EventQuery
