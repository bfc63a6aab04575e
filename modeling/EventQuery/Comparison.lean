import EventQuery.Scalar

/-!
Comparisons: an operator with its right operand, not yet attached to a field.
-/

namespace EventQuery

/-- A comparison operator. -/
inductive Operator where
  | eq
  | ne
  | lt
  | le
  | gt
  | ge
deriving Repr, DecidableEq

namespace Operator

/-- The token of an operator. -/
def token : Operator → String
  | eq => "=="
  | ne => "!="
  | lt => "<"
  | le => "<="
  | gt => ">"
  | ge => ">="

/-- All operators. -/
def all : List Operator := [eq, ne, lt, le, gt, ge]

/-- The operator with this token. -/
def ofToken? (token : String) : Option Operator := all.find? fun op => op.token == token

end Operator

/-- An operator with its right operand. -/
structure Comparison where
  op : Operator
  operand : Scalar
deriving Repr, DecidableEq

/-- Equality of comparisons. -/
def Comparison.equal (a b : Comparison) : Bool := a.op == b.op && a.operand.equal b.operand

end EventQuery
