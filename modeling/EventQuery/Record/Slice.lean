import EventQuery.Record.Span

/-!
Slices: the events within a span, grouped by the stream they came from.

Events arrive in pages. A page announces streams under hashes and holds events
that are marked with one of these hashes. `Groups.addPage` puts the events of a
page into their groups: groups keep the order in which they were first
announced and their first descriptor, and events whose stream is not known by
then are left out.
-/

namespace EventQuery

/-- One page of events: stream descriptors by hash, and marked events. -/
structure EventPage where
  streams : Fields Json
  events : List Object
deriving Repr

namespace EventPage

/-- Reads a page of events; both parts may be missing. -/
def read? (levels : Nat) (d : Document) : Option EventPage := do
  match ← d.members? ["streams", "events"] with
  | [streams, events] =>
    let streams ← match streams with
      | some s => s.object? (levels - 1)
      | none => some []
    let events ← match events with
      | some e => e.list? (Document.object? (levels - 2))
      | none => some []
    return ⟨streams, events⟩
  | _ => none

/-- A page with its cursor to the next one, as a JSON object. -/
def encode (p : EventPage) (next : Option String) : Json :=
  .object [("streams", .object p.streams), ("events", .array (p.events.map .object)),
    ("cursor", .optionalString next)]

end EventPage

/-- The events of one stream: its descriptor and its events in order of
arrival. -/
structure StreamEvents where
  stream : Json
  events : List Object
deriving Repr

/-- The events of one stream as a JSON object. -/
def StreamEvents.encode (g : StreamEvents) : Json :=
  .object [("stream", g.stream), ("events", .array (g.events.map .object))]

/-- Events by the hash of their stream, in the order in which the hashes were
first announced. -/
abbrev Groups := Fields StreamEvents

/-- The member of an event that holds the hash of its stream. -/
def hashKey : String := "stream"

namespace Groups

/-- Announces a stream; one that is known already stays as it is. -/
def announce (groups : Groups) (entry : String × Json) : Groups :=
  match Fields.find? entry.1 groups with
  | some _ => groups
  | none => groups ++ [(entry.1, ⟨entry.2, []⟩)]

/-- Adds an event to the group of a hash, if there is one. -/
def addTo (hash : String) (event : Object) : Groups → Groups
  | [] => []
  | (h, g) :: rest =>
    if h = hash then (h, { g with events := g.events ++ [event] }) :: rest
    else (h, g) :: addTo hash event rest

/-- Adds an event to the group that it is marked with, without the mark. -/
def addEvent (groups : Groups) (event : Object) : Groups :=
  match Fields.find? hashKey event with
  | some (.string hash) => addTo hash (Fields.erase hashKey event) groups
  | _ => groups

/-- Announces the streams of a page, then adds its events. -/
def addPage (groups : Groups) (page : EventPage) : Groups :=
  page.events.foldl addEvent (page.streams.foldl announce groups)

end Groups

/-- The events between two instants, grouped by stream. -/
structure Slice where
  start : Instant
  stop : Instant
  streams : List StreamEvents
deriving Repr

/-- A slice as a JSON object. -/
def Slice.encode (s : Slice) : Json :=
  .object [("start", s.start.encode), ("end", s.stop.encode),
    ("streams", .array (s.streams.map StreamEvents.encode))]

end EventQuery
