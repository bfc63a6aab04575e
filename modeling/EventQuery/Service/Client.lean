import EventQuery.Record.Slice
import EventQuery.Selection
import EventQuery.Service.Network

/-!
The operations of a client on streams and events.

Every operation is made of requests to resources below the base of the client.
A resource is named by segments, and whatever characters a name has, it is one
segment. An operation whose request cannot be written sends none, and one whose
answer reports an error sends no other.
-/

namespace EventQuery

/-- A configuration together with the locator that its host names. -/
structure Client where
  config : Config
  base : Url
deriving Repr, DecidableEq

/-- The client of a configuration. The host is looked at before the key. -/
def Config.connect (c : Config) : Except ConfigError Client :=
  match c.base with
  | .error e => .error e
  | .ok base => if Config.isHeaderValue c.authKey then .ok ⟨c, base⟩ else .error .invalidKey

/-- An event of a stream: the name and the time that came with it, as far as they
did, and the event itself. -/
structure StoredEvent where
  id : Option String
  time : Option Instant
  event : Json
deriving Repr

/-- A stored event as a JSON object. -/
def StoredEvent.encode (e : StoredEvent) : Json :=
  .object [("id", .optionalString e.id), ("ts", encodeOptionalInstant e.time),
    ("event", e.event)]

/-- The instant that a header names. -/
def readTimestamp (given : String) : Except ClientError Instant :=
  match Timestamp.read? given with
  | some t => .ok t.instant
  | none => .error (.invalidTimestamp given)

namespace Client

/-! ### Requests -/

/-- The type of a body that is JSON. -/
def jsonType : String := "application/json"

/-- The type of a query in the text form. -/
def textType : String := "text/neoflare"

/-- The locator of a resource. -/
def resource (c : Client) (segments : List String) : Url := c.base.appendSegments segments

/-- A request with the key of the client. -/
def request (c : Client) (method : Method) (segments : List String) (body : String) : Request :=
  ⟨method, c.resource segments,
    [("auth-key", c.config.authKey), ("content-type", jsonType)], body⟩

/-- A request without a body. -/
def getRequest (c : Client) (segments : List String) : Request := c.request .get segments ""

/-- Fetches a resource and reads the body of the answer. -/
def fetch {α : Type} (c : Client) (segments : List String) (read : Document → Option α) :
    Action Network α := do
  let a ← (c.getRequest segments).ask
  Action.ofExcept (a.decode read)

/-- Reads any value. -/
def readValue (d : Document) : Option Json := d.value? Document.maxNesting

/-- Reads a list of records that may hold any values. -/
def readRecords {α : Type} (read : Nat → Document → Option α) (d : Document) :
    Option (List α) :=
  d.list? (read (Document.maxNesting - 1))

/-! ### Streams -/

/-- Asks whether the service is there and accepts the key. -/
def ping (c : Client) : Action Network Unit := do
  let _ ← (c.getRequest []).ask
  return ()

/-- The names of the streams that match. -/
def streams (c : Client) (name : String) (wanted : Object) : Action Network (List String) := do
  let entries ← c.fetch ["streams"] (readRecords StreamEntry.read?)
  return (entries.filter fun s => s.isMatch name wanted).map StreamEntry.name

/-- The fields of a stream. -/
def fields (c : Client) (stream : String) : Action Network (List FieldEntry) :=
  c.fetch ["streams", stream, "fields"] (Document.list? FieldEntry.read?)

/-- The latest values of the fields of a stream. -/
def values (c : Client) (stream : String) : Action Network (List FieldValue) :=
  c.fetch ["streams", stream, "values"] (readRecords FieldValue.read?)

/-- The descriptor of a stream. -/
def describe (c : Client) (stream : String) : Action Network Json :=
  c.fetch ["streams", stream] readValue

/-- Deletes a stream with all its events. -/
def destroy (c : Client) (stream : String) : Action Network Unit := do
  let _ ← (c.request .delete ["streams", stream] "").ask
  return ()

/-! ### Events -/

/-- The event at a resource. The headers are read before the body. -/
def eventAt (c : Client) (segments : List String) : Action Network StoredEvent := do
  let a ← (c.getRequest segments).ask
  let time ← match a.header? "timestamp" with
    | some given => do pure (some (← Action.ofExcept (readTimestamp given)))
    | none => pure none
  let event ← Action.ofExcept (a.decode readValue)
  return ⟨a.header? "location", time, event⟩

/-- The latest event of a stream. -/
def newest (c : Client) (stream : String) : Action Network StoredEvent :=
  c.eventAt ["streams", stream, "newest"]

/-- The first event of a stream. -/
def oldest (c : Client) (stream : String) : Action Network StoredEvent :=
  c.eventAt ["streams", stream, "oldest"]

/-- The event of a stream with this name. -/
def event (c : Client) (stream id : String) : Action Network StoredEvent :=
  c.eventAt ["streams", stream, "events", id]

/-- The request that stores an event: under its name if it has one. -/
def putRequest (c : Client) (stream : String) (event : Json) (id : Option String)
    (time : Option Instant) : Request :=
  let r := match id with
    | some id => c.request .put ["streams", stream, "events", id] event.compact
    | none => c.request .post ["streams", stream, "events"] event.compact
  match time with
  | some t => { r with headers := r.headers ++ [("timestamp", t.isoText)] }
  | none => r

/-- Stores an event and gives its name, which the service chooses if none is
given. -/
def putEvent (c : Client) (stream : String) (event : Json) (id : Option String)
    (time : Option Instant) : Action Network String := do
  let a ← (c.putRequest stream event id time).ask
  match id, a.header? "location" with
  | some id, _ => return id
  | none, some location => return location
  | none, none => Action.fail (.missingHeader "location")

/-- Deletes an event of a stream. -/
def deleteEvent (c : Client) (stream id : String) : Action Network Unit := do
  let _ ← (c.request .delete ["streams", stream, "events", id] "").ask
  return ()

/-- The events of a stream between two instants. -/
def range (c : Client) (stream : String) (start stop : Instant) :
    Action Network (List RangeEvent) :=
  c.fetch ["streams", stream, "start", start.isoText, "end", stop.isoText]
    (readRecords RangeEvent.read?)

/-! ### Statistics of fields -/

/-- The fields of a query that name the bounds of a range of time. -/
def boundFields (start stop : Option Instant) : List (String × String) :=
  (start.map fun t => ("start", t.isoText)).toList ++ (stop.map fun t => ("end", t.isoText)).toList

/-- The statistics of a field, given by its whole path. -/
def stats (c : Client) (stream field : String) (start stop : Option Instant) :
    Action Network Json := do
  let r := c.getRequest ["streams", stream, "fields", field, "stats"]
  let a ← ({ r with url := r.url.addQuery (boundFields start stop) }).ask
  Action.ofExcept (a.decode readValue)

/-- The statistics of a field, given by its entry. -/
def fieldStats (c : Client) (stream : String) (field : FieldEntry) (start stop : Option Instant) :
    Action Network Json :=
  c.stats stream field.qualified start stop

end Client

end EventQuery
