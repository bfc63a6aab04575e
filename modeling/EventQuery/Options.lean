import EventQuery.Json.Document
import EventQuery.Scalar

/-!
Options for writing queries, themselves kept as a JSON record.
-/

namespace EventQuery

/-- How queries are written. -/
structure QueryOptions where
  numbers : NumberPolicy
deriving Repr, DecidableEq

/-- Reads the word for a number policy: a string, or an object with that name and
`null`. -/
def NumberPolicy.read? : Document → Option NumberPolicy
  | .string s => s.text?.bind ofName?
  | .object [(key, .null)] => key.text?.bind ofName?
  | _ => none

namespace QueryOptions

/-- What holds where nothing is said. -/
def default : QueryOptions := ⟨.double⟩

/-- Reads options from a record; what is missing has its default. -/
def read? (d : Document) : Option QueryOptions := do
  let members ← d.members? ["numbers"]
  match members with
  | [some numbers] => return ⟨← NumberPolicy.read? numbers⟩
  | _ => return default

/-- Reads options from a text. -/
def parse? (text : String) : Option QueryOptions := (Document.read? text).bind read?

/-- The options as a JSON object. -/
def encode (o : QueryOptions) : Json := .object [("numbers", .string o.numbers.name)]

end QueryOptions

end EventQuery
