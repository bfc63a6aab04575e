import EventQuery.Comparison

/-!
Shapes: what the fields of an event must be like.

A shape maps field names to constraints, in the order in which the fields were
first set. A constraint is a literal, a comparison, a choice or a collection of
constraints on the same field, or a shape for the fields below it.

* `Shape.insert` sets a field: a repeated name keeps its place and takes the
  new constraint.
* `Shape.ofJson` reads a JSON object; nested objects are nested shapes and all
  other values are literals.
* `Shape.equal` does not look at the order of fields, and does look at the
  order of alternatives.
-/

namespace EventQuery

/-- What one field must be like. -/
inductive Constraint where
  /-- The field equals a literal. -/
  | scalar (value : Scalar)
  /-- The field compares with a literal. -/
  | comparison (value : Comparison)
  /-- One of the alternatives holds. -/
  | anyOf (alternatives : List Constraint)
  /-- All of the constraints hold. -/
  | allOf (constraints : List Constraint)
  /-- The field has fields of its own. -/
  | nested (fields : List (String × Constraint))
deriving Repr

/-- Constraints on the fields of an event. -/
structure Shape where
  fields : Fields Constraint
deriving Repr

namespace Shape

/-- No field is constrained. -/
def empty : Shape := ⟨[]⟩

/-- Sets the constraint of a field. -/
def insert (s : Shape) (key : String) (value : Constraint) : Shape :=
  ⟨Fields.insert key value s.fields⟩

/-- Sets fields from left to right, starting from none. -/
def ofList (entries : List (String × Constraint)) : Shape := ⟨Fields.ofList entries⟩

/-- The names of the fields, in order. -/
def keys (s : Shape) : List String := Fields.names s.fields

/-- The number of fields. -/
def size (s : Shape) : Nat := s.fields.length

/-- The shape as a constraint on the field above it. -/
def nest (s : Shape) : Constraint := .nested s.fields

end Shape

/-! ### Reading from JSON -/

mutual

/-- A JSON value as a constraint. -/
def Constraint.ofJson : Json → Except QueryError Constraint
  | .object members => do return .nested (← fieldsOfJson members)
  | .null => do return .scalar (← Scalar.ofJson .null)
  | .bool b => do return .scalar (← Scalar.ofJson (.bool b))
  | .number n => do return .scalar (← Scalar.ofJson (.number n))
  | .string s => do return .scalar (← Scalar.ofJson (.string s))
  | .array items => do return .scalar (← Scalar.ofJson (.array items))

/-- The members of a JSON object as fields; the first one that is none decides
the error. -/
def fieldsOfJson : List (String × Json) → Except QueryError (List (String × Constraint))
  | [] => .ok []
  | (key, v) :: rest => do
    let c ← Constraint.ofJson v
    let cs ← fieldsOfJson rest
    return (key, c) :: cs

end

/-- A JSON value as a shape; it has to be an object. -/
def Shape.ofJson : Json → Except QueryError Shape
  | .object members => do return ⟨← fieldsOfJson members⟩
  | v => .error (.invalidShape v)

/-! ### Equality -/

mutual

/-- Equality of constraints. -/
def Constraint.equal : Constraint → Constraint → Bool
  | .scalar a, .scalar b => a.equal b
  | .comparison a, .comparison b => a.equal b
  | .anyOf xs, .anyOf ys => equalConstraints xs ys
  | .allOf xs, .allOf ys => equalConstraints xs ys
  | .nested fs, .nested gs => fs.length == gs.length && equalFields fs gs
  | _, _ => false

/-- Two lists of constraints agree position by position. -/
def equalConstraints : List Constraint → List Constraint → Bool
  | [], [] => true
  | x :: xs, y :: ys => x.equal y && equalConstraints xs ys
  | _, _ => false

/-- Every field of the first list is in the second one with an equal
constraint. -/
def equalFields : List (String × Constraint) → List (String × Constraint) → Bool
  | [], _ => true
  | (key, c) :: rest, gs =>
    (match Fields.find? key gs with
      | some d => c.equal d
      | none => false) && equalFields rest gs

end

/-- Equality of shapes: the same fields with equal constraints, in any
order. -/
def Shape.equal (s t : Shape) : Bool :=
  s.fields.length == t.fields.length && equalFields s.fields t.fields

end EventQuery
