import EventQuery.Record.Stream

/-!
Spans: the matches of a query, and statistics of their lengths.

A span may be open at either end and then has no length. `SpanStats.ofSpans?`
sums up the lengths of the others; sums are kept in 64 bits.
-/

namespace EventQuery

/-- A match of a query: a cursor to its events, and its ends as far as they are
known. -/
structure Span where
  cursor : String
  start : Option Instant
  stop : Option Instant
deriving Repr

/-- An absent instant is `null`. -/
def encodeOptionalInstant : Option Instant → Json
  | some t => t.encode
  | none => .null

namespace Span

/-- Reads a span; either end may be missing. -/
def read? (d : Document) : Option Span := do
  match ← d.members? ["cursor", "start", "end"] with
  | [some cursor, start, stop] =>
    return ⟨← cursor.string?, ← Document.optional? Instant.read? start,
      ← Document.optional? Instant.read? stop⟩
  | _ => none

/-- The span as a JSON object. -/
def encode (s : Span) : Json :=
  .object [("cursor", .string s.cursor), ("start", encodeOptionalInstant s.start),
    ("end", encodeOptionalInstant s.stop)]

/-- The length in whole milliseconds, if both ends are known. -/
def millis? (s : Span) : Option Int :=
  match s.start, s.stop with
  | some start, some stop => some (stop.millisSince start)
  | _, _ => none

end Span

/-- One page of the spans of a query, and a cursor to the next page. -/
structure SpanPage where
  spans : List Span
  next : Option String
deriving Repr

/-- Reads a page of spans; the cursor may be missing. -/
def SpanPage.read? (d : Document) : Option SpanPage := do
  match ← d.members? ["spans", "cursor"] with
  | [some spans, next] =>
    return ⟨← spans.list? Span.read?, ← Document.optional? Document.string? next⟩
  | _ => none

/-! ### Statistics -/

/-- The lengths of the spans of a query in milliseconds. All spans are counted,
the other figures are of those that have a length. -/
structure SpanStats where
  count : Nat
  mean : Double
  least : Int
  greatest : Int
  median : Int
deriving Repr

/-- A sum of lengths, kept in 64 bits. -/
def totalMillis (lengths : List Int) : Int :=
  Int.bmod (lengths.foldr (· + ·) 0) 18446744073709551616

namespace SpanStats

/-- The quotient of two integers, each rounded to a double first. -/
def quotient (total : Int) (count : Nat) : Double :=
  match Double.ofInt total, Double.ofInt count with
  | .finite x, .finite y => Double.divide x y
  | x, _ => x

/-- The statistics of lengths in ascending order, the first of which is
`least`. -/
def ofSorted (count : Nat) (least : Int) (rest : List Int) : SpanStats :=
  let lengths := least :: rest
  { count
    mean := quotient (totalMillis lengths) lengths.length
    least
    greatest := lengths.getLastD least
    median := lengths.getD (lengths.length / 2) least }

/-- The statistics of spans; `none` if no span has a length. -/
def ofSpans? (spans : List Span) : Option SpanStats :=
  match (spans.filterMap Span.millis?).mergeSort (fun a b => decide (a ≤ b)) with
  | [] => none
  | least :: rest => some (ofSorted spans.length least rest)

/-- A double as JSON; what has no digits is `null`. -/
def encodeMean : Double → Json
  | .finite x => .double x
  | .nonFinite _ => .null

/-- The statistics as a JSON object. -/
def encode (s : SpanStats) : Json :=
  .object [("count", .integer s.count), ("mean", encodeMean s.mean), ("min", .integer s.least),
    ("max", .integer s.greatest), ("median", .integer s.median)]

/-- Statistics that may be missing, as JSON. -/
def encodeOptional : Option SpanStats → Json
  | some s => s.encode
  | none => .null

end SpanStats

end EventQuery
