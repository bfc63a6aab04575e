import EventQuery.Error

/-!
Scalars: the literals that event fields are compared with.

A scalar is written as an object of its type and its value
(`Scalar.encode`). A number policy says whether whole numbers have a type of
their own; it changes the form of a number and never its value.
-/

namespace EventQuery

/-- How numbers are tagged when they are written. -/
inductive NumberPolicy where
  /-- Every number has type `double`. -/
  | double
  /-- Whole numbers, however they were given, have type `int`. -/
  | integralAsInt
deriving Repr, DecidableEq

/-- The word for a policy. -/
def NumberPolicy.name : NumberPolicy → String
  | double => "double"
  | integralAsInt => "integral_as_int"

/-- The policy with this word. -/
def NumberPolicy.ofName? (name : String) : Option NumberPolicy :=
  [double, integralAsInt].find? fun p => p.name == name

/-- A literal operand of a comparison. -/
inductive Scalar where
  | int (value : Int64)
  | double (value : Double)
  | bool (value : Bool)
  | string (value : String)
deriving Repr, DecidableEq

/-- Whether an integer fits 64 bits with a sign. -/
def fitsInt64 (n : Int) : Bool := decide (-9223372036854775808 ≤ n ∧ n < 9223372036854775808)

namespace Scalar

/-- An integer of any size: itself if it fits 64 bits, else the nearest
double. -/
def ofInt (n : Int) : Scalar := if fitsInt64 n then int (.ofInt n) else double (.ofInt n)

/-- A JSON value as a scalar: integers that fit 64 bits stay integers, all
other numbers are doubles. -/
def ofJson : Json → Except QueryError Scalar
  | .bool b => .ok (bool b)
  | .string s => .ok (string s)
  | .number (.integer n) => .ok (ofInt n)
  | .number (.double x) => .ok (double (.finite x))
  | .null => .error (.invalidScalar .null)
  | .array _ => .error (.invalidScalar .array)
  | .object _ => .error (.invalidScalar .object)

/-- Equality: an integer and a double differ even when they have one value, and
doubles are compared as numbers. -/
def equal : Scalar → Scalar → Bool
  | int m, int n => m == n
  | double x, double y => x.equal y
  | bool a, bool b => a == b
  | string s, string t => s == t
  | _, _ => false

/-- The type under a policy. -/
def tag (policy : NumberPolicy) : Scalar → String
  | int _ => match policy with
    | .double => "double"
    | .integralAsInt => "int"
  | double x => match policy, x.toInt64? with
    | .integralAsInt, some _ => "int"
    | _, _ => "double"
  | bool _ => "bool"
  | string _ => "string"

/-- The value under a policy, as JSON; a number without digits has none. -/
def value (policy : NumberPolicy) : Scalar → Except QueryError Json
  | int n => .ok (.integer n.toInt)
  | double (.nonFinite x) => .error (.invalidScalar (.number x))
  | double (.finite x) => match policy, x.toInt64? with
    | .integralAsInt, some n => .ok (.integer n.toInt)
    | _, _ => .ok (.double x)
  | bool b => .ok (.bool b)
  | string s => .ok (.string s)

/-- The written form: the type, then the value. -/
def encode (policy : NumberPolicy) (s : Scalar) : Except QueryError Json := do
  let v ← s.value policy
  return .object [("type", .string (s.tag policy)), ("val", v)]

end Scalar

/-! ### Numbers of machine types -/

/-- The machine types a number may be given in. -/
inductive NumberType where
  | signed (bits : Nat)
  | unsigned (bits : Nat)
  | single
  | double
deriving Repr, DecidableEq

namespace NumberType

/-- The type with this name; the two size types have 64 bits. -/
def ofName? : String → Option NumberType
  | "i8" => some (signed 8)
  | "i16" => some (signed 16)
  | "i32" => some (signed 32)
  | "i64" => some (signed 64)
  | "i128" => some (signed 128)
  | "isize" => some (signed 64)
  | "u8" => some (unsigned 8)
  | "u16" => some (unsigned 16)
  | "u32" => some (unsigned 32)
  | "u64" => some (unsigned 64)
  | "u128" => some (unsigned 128)
  | "usize" => some (unsigned 64)
  | "f32" => some single
  | "f64" => some double
  | _ => none

/-- Reads a number of a type; integers outside its range are refused, and an
unsigned type takes no minus. -/
def read? (type : NumberType) (text : String) : Option Scalar :=
  match type with
  | signed bits => (readInteger? text).bind fun n =>
    let bound := Nat.pow 2 (bits - 1)
    if -(bound : Int) ≤ n ∧ n < bound then some (.ofInt n) else none
  | unsigned bits =>
    if text.toList.head? = some '-' then none
    else (readInteger? text).bind fun n => if n < Nat.pow 2 bits then some (.ofInt n) else none
  | single => (NumberLiteral.read? text).map fun l => .double l.toSingle
  | double => (NumberLiteral.read? text).map fun l => .double l.toDouble

end NumberType

end EventQuery
