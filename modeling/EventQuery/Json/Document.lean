import EventQuery.Json.Token
import EventQuery.Json.Basic

/-!
JSON texts as documents, and documents as values.

A document is the tree of a text with everything that was written: repeated
members, half surrogate pairs, numbers beyond every double. `Document.read?`
accepts exactly the texts of the grammar, and `Document.readBytes?` reads them from
bytes, of which some may be stray. `Document.value?` turns a document
into a value; it refuses what no value can hold, and nesting beyond a limit.
A record reader (`Document.members?`) looks at the members it knows and at no
others.
-/

namespace EventQuery

/-- A JSON text as a tree. -/
inductive Document where
  | null
  | bool (value : Bool)
  | number (value : RawNumber)
  | string (value : RawString)
  | array (items : List Document)
  | object (members : List (RawString × Document))
deriving Repr

/-! ### From tokens to a tree -/

/-- An array or object that has been opened and not closed: what it holds so
far, in reverse, and the name of the member whose value comes next. -/
inductive OpenFrame where
  | array (items : List Document)
  | object (members : List (RawString × Document)) (key : RawString)
deriving Repr

/-- What the tokens so far ask for. -/
inductive BuildState where
  /-- A value. -/
  | value (outer : List OpenFrame)
  /-- A first item, or the end of the array. -/
  | firstItem (outer : List OpenFrame)
  /-- A first name, or the end of the object. -/
  | firstKey (outer : List OpenFrame)
  /-- A name. -/
  | key (outer : List OpenFrame) (members : List (RawString × Document))
  /-- The colon after a name. -/
  | colon (outer : List OpenFrame) (members : List (RawString × Document)) (key : RawString)
  /-- After a value: the next item or member, or the end. -/
  | after (outer : List OpenFrame) (value : Document)
deriving Repr

namespace BuildState

/-- The first token of a value. -/
def startValue (outer : List OpenFrame) : Token → Option BuildState
  | .null => some (after outer .null)
  | .bool b => some (after outer (.bool b))
  | .number n => some (after outer (.number n))
  | .string s => some (after outer (.string s))
  | .openArray => some (firstItem outer)
  | .openObject => some (firstKey outer)
  | _ => none

/-- One more token. -/
def step : BuildState → Token → Option BuildState
  | value outer, t => startValue outer t
  | firstItem outer, .closeArray => some (after outer (.array []))
  | firstItem outer, t => startValue (.array [] :: outer) t
  | firstKey outer, .closeObject => some (after outer (.object []))
  | firstKey outer, .string s => some (colon outer [] s)
  | firstKey _, _ => none
  | key outer members, .string s => some (colon outer members s)
  | key _ _, _ => none
  | colon outer members k, .colon => some (value (.object members k :: outer))
  | colon _ _ _, _ => none
  | after (.array items :: outer) v, .comma => some (value (.array (v :: items) :: outer))
  | after (.array items :: outer) v, .closeArray =>
    some (after outer (.array (v :: items).reverse))
  | after (.object members k :: outer) v, .comma => some (key outer ((k, v) :: members))
  | after (.object members k :: outer) v, .closeObject =>
    some (after outer (.object ((k, v) :: members).reverse))
  | after _ _, _ => none

/-- The finished tree, if nothing is open. -/
def finish? : BuildState → Option Document
  | after [] v => some v
  | _ => none

end BuildState

namespace Document

/-- The tree of a list of tokens. -/
def ofTokens? (tokens : List Token) : Option Document :=
  (tokens.foldlM BuildState.step (.value [])).bind BuildState.finish?

/-- The tree of a text. -/
def read? (text : String) : Option Document :=
  (Token.scan? text.toList).bind ofTokens?

/-- The tree of a text that is given as bytes. -/
def readBytes? (bytes : List UInt8) : Option Document := (Token.scanBytes? bytes).bind ofTokens?

end Document

/-! ### From a tree to a value -/

/-- The text of a written string. -/
def RawString.text? (s : RawString) : Option String := s.decode?.map String.ofList

namespace Document

mutual

/-- The value of a document in which at most `levels` arrays and objects are
nested. Of members with one name, the first gives the place and the last the
value. -/
def value? : Nat → Document → Option Json
  | _, null => some .null
  | _, bool b => some (.bool b)
  | _, number n => n.value?.map .number
  | _, string s => s.text?.map .string
  | 0, array _ => none
  | levels + 1, array items => (itemValues? levels items).map .array
  | 0, object _ => none
  | levels + 1, object members =>
    (memberValues? levels members).map fun ms => .object (Fields.ofList ms)

/-- The values of the items of an array. -/
def itemValues? : Nat → List Document → Option (List Json)
  | _, [] => some []
  | levels, d :: rest => do
    let v ← value? levels d
    let vs ← itemValues? levels rest
    return v :: vs

/-- The members of an object, in order and with repetitions. -/
def memberValues? : Nat → List (RawString × Document) → Option (List (String × Json))
  | _, [] => some []
  | levels, (key, d) :: rest => do
    let k ← key.text?
    let v ← value? levels d
    let ms ← memberValues? levels rest
    return (k, v) :: ms

end

/-- The number of arrays and objects that may be nested in a text. -/
def maxNesting : Nat := 127

end Document

/-- The value of a text. -/
def Json.parse? (text : String) : Option Json :=
  (Document.read? text).bind (Document.value? Document.maxNesting)

/-! ### Records -/

namespace Document

/-- The members of an object with their names as text. -/
def named? : List (RawString × Document) → Option (List (String × Document))
  | [] => some []
  | (key, d) :: rest => do
    let k ← key.text?
    let ms ← named? rest
    return (k, d) :: ms

/-- The only member with a name, if there is one; a repetition is refused. -/
def only? (members : List (String × Document)) (key : String) : Option (Option Document) :=
  match members.filter (fun m => m.1 == key) with
  | [] => some none
  | [m] => some (some m.2)
  | _ => none

/-- The members of a record in the order of `names`, each if it is there: an
object by name, an array by position. Other names are passed over, too many
items are refused. -/
def members? (names : List String) : Document → Option (List (Option Document))
  | object members => (named? members).bind fun ms => names.mapM (only? ms)
  | array items =>
    if items.length ≤ names.length then
      some (items.map some ++ List.replicate (names.length - items.length) none)
    else none
  | _ => none

/-- Whether a record has no names but these. -/
def onlyNames (names : List String) : Document → Bool
  | object members =>
    match named? members with
    | some ms => ms.all fun m => names.contains m.1
    | none => false
  | _ => true

/-- The text of a string. -/
def string? : Document → Option String
  | string s => s.text?
  | _ => none

/-- A list whose items are read by `read`. -/
def list? {α : Type} (read : Document → Option α) : Document → Option (List α)
  | array items => items.mapM read
  | _ => none

/-- A value that may be absent: `null` reads as absent. -/
def optional? {α : Type} (read : Document → Option α) : Option Document → Option (Option α)
  | none => some none
  | some null => some none
  | some d => (read d).map some

/-- An object as its members. -/
def object? (levels : Nat) (d : Document) : Option Object :=
  match d with
  | object _ => (value? levels d).bind fun
    | .object members => some members
    | _ => none
  | _ => none

end Document

end EventQuery
