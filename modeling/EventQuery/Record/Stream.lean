import EventQuery.Binding
import EventQuery.Json.Document
import EventQuery.Text.Lowercase
import EventQuery.Time.Text

/-!
What the service tells about its streams: the entry of a stream, the fields it
knows, their latest values, and the events of a range of time.

Each record has a reader and a written form. A reader is told how many arrays
and objects may still be nested, its own included.

* `StreamEntry.isMatch` finds a stream by a part of its name, whatever the case
  of its letters, and by its metadata.
* `FieldEntry.qualified` is the path of a field below the root of an event.
-/

namespace EventQuery

/-- Reads a timestamp of a record as an instant. -/
def Instant.read? (d : Document) : Option Instant :=
  d.string?.bind fun s => (Timestamp.readRelaxed? s).map Timestamp.instant

/-- An instant as a member of a record. -/
def Instant.encode (t : Instant) : Json := .string t.wireText

/-! ### Streams -/

/-- A stream of the service: its name and its metadata. -/
structure StreamEntry where
  name : String
  metadata : Object
deriving Repr

namespace StreamEntry

/-- Reads the entry of a stream; metadata may be missing. -/
def read? (levels : Nat) (d : Document) : Option StreamEntry := do
  match ← d.members? ["name", "meta"] with
  | [some name, some metadata] => return ⟨← name.string?, ← metadata.object? (levels - 1)⟩
  | [some name, none] => return ⟨← name.string?, []⟩
  | _ => none

/-- The entry as a JSON object. -/
def encode (s : StreamEntry) : Json :=
  .object [("name", .string s.name), ("meta", .object s.metadata)]

/-- Whether a list of characters occurs in another one, in one piece. -/
def occursIn (part : List Char) : List Char → Bool
  | [] => part.isEmpty
  | c :: rest => part.isPrefixOf (c :: rest) || occursIn part rest

/-- Whether metadata has a member with an equal value. -/
def hasMember (metadata : Object) (m : String × Json) : Bool :=
  match Fields.find? m.1 metadata with
  | some v => v.equal m.2
  | none => false

/-- Whether a stream is one that is looked for: its name has `name` as a part,
both in lower case, and its metadata has all of the wanted members. -/
def isMatch (s : StreamEntry) (name : String) (wanted : Object) : Bool :=
  occursIn (lowercase name.toList) (lowercase s.name.toList) && wanted.all (hasMember s.metadata)

end StreamEntry

/-! ### Fields -/

/-- A field of the events of a stream, and when it was first seen. -/
structure FieldEntry where
  id : String
  path : List String
  start : Instant
deriving Repr

namespace FieldEntry

/-- Reads the entry of a field. -/
def read? (d : Document) : Option FieldEntry := do
  match ← d.members? ["id", "path", "start"] with
  | [some id, some path, some start] =>
    return ⟨← id.string?, ← path.list? Document.string?, ← Instant.read? start⟩
  | _ => none

/-- The entry as a JSON object. -/
def encode (f : FieldEntry) : Json :=
  .object [("id", .string f.id), ("path", .strings f.path), ("start", f.start.encode)]

/-- The path from the root of an event, its names joined by points. -/
def qualified (f : FieldEntry) : String := ".".intercalate (eventRoot :: f.path)

end FieldEntry

/-- The latest value of a field. -/
structure FieldValue where
  id : String
  path : List String
  value : Json
  time : Instant
deriving Repr

namespace FieldValue

/-- Reads the value of a field; the value may be anything but missing. -/
def read? (levels : Nat) (d : Document) : Option FieldValue := do
  match ← d.members? ["id", "path", "value", "ts"] with
  | [some id, some path, some value, some time] =>
    return ⟨← id.string?, ← path.list? Document.string?, ← value.value? (levels - 1),
      ← Instant.read? time⟩
  | _ => none

/-- The value of a field as a JSON object. -/
def encode (v : FieldValue) : Json :=
  .object [("id", .string v.id), ("path", .strings v.path), ("value", v.value),
    ("ts", v.time.encode)]

end FieldValue

/-! ### Events of a range -/

/-- An event of a range of time: when it was, and all its other members. -/
structure RangeEvent where
  time : Instant
  fields : Object
deriving Repr

namespace RangeEvent

/-- Reads an event, which has to be an object with one `ts`. -/
def read? (levels : Nat) : Document → Option RangeEvent
  | .object members => do
    let named ← Document.named? members
    match ← Document.only? named "ts" with
    | some time =>
      let others := members.filter fun m => m.1.text? != some "ts"
      return ⟨← Instant.read? time, ← (Document.object others).object? levels⟩
    | none => none
  | _ => none

/-- The event as a JSON object: its time first. -/
def encode (e : RangeEvent) : Json := .object (("ts", e.time.encode) :: e.fields)

end RangeEvent

end EventQuery
