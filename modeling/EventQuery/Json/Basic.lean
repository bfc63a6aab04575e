import EventQuery.Double.Basic
import EventQuery.Fields

/-!
JSON values.

A number is an integer or a finite double, and the two kinds never compare
equal. Object members keep their order, which equality ignores.
-/

namespace EventQuery

/-- A JSON number, in the form in which it was written. -/
inductive Number where
  | integer (value : Int)
  | double (value : Finite)
deriving Repr, DecidableEq

/-- A JSON value. -/
inductive Json where
  | null
  | bool (value : Bool)
  | number (value : Number)
  | string (value : String)
  | array (items : List Json)
  | object (members : List (String × Json))
deriving Repr

/-- A JSON object, as its members in order. -/
abbrev Object := Fields Json

/-- Equality of numbers: an integer and a double differ, and the sign of a zero
double does not count. -/
def Number.equal : Number → Number → Bool
  | integer m, integer n => m == n
  | double x, double y => x.equal y
  | _, _ => false

namespace Json

/-- An integer as a JSON value. -/
def integer (n : Int) : Json := number (.integer n)

/-- A finite double as a JSON value. -/
def double (x : Finite) : Json := number (.double x)

/-- Strings as a JSON array. -/
def strings (ss : List String) : Json := array (ss.map string)

/-- An absent string is `null`. -/
def optionalString : Option String → Json
  | some s => string s
  | none => null

/-! ### Equality -/

mutual

/-- Equality of values: arrays item by item, objects without regard to the
order of their members. -/
def equal : Json → Json → Bool
  | null, null => true
  | bool a, bool b => a == b
  | number m, number n => m.equal n
  | string s, string t => s == t
  | array xs, array ys => equalItems xs ys
  | object ms, object ns => ms.length == ns.length && equalMembers ms ns
  | _, _ => false

/-- Two lists of values agree position by position. -/
def equalItems : List Json → List Json → Bool
  | [], [] => true
  | x :: xs, y :: ys => equal x y && equalItems xs ys
  | _, _ => false

/-- Every member of the first object is in the second one with an equal
value. -/
def equalMembers : List (String × Json) → List (String × Json) → Bool
  | [], _ => true
  | (key, v) :: rest, ns =>
    (match Fields.find? key ns with
      | some w => equal v w
      | none => false) && equalMembers rest ns

end

/-! ### Looking into a value -/

/-- The member of an object with this name. -/
def member? (key : String) : Json → Option Json
  | object members => Fields.find? key members
  | _ => none

/-- The text of a string. -/
def string? : Json → Option String
  | string s => some s
  | _ => none

end Json

end EventQuery
