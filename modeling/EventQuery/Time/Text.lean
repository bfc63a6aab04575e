import EventQuery.Double.Text
import EventQuery.Text.Blank
import EventQuery.Time.Instant

/-!
Timestamps as text.

* `Timestamp.read?` reads RFC 3339: four digits of the year, two of everything
  else, an optional fraction, and a zone.
* `Timestamp.readRelaxed?` is what members of records may hold beyond that:
  fewer digits, white space between the parts, years with a sign and any number
  of digits, and a zone without its colon.
* `Instant.wireText` has the fewest of 0, 3, 6 and 9 fraction digits that lose
  nothing, `Instant.isoText` always has three.
-/

namespace EventQuery

/-- An instant with the offset of the zone it was given in, in minutes. -/
structure Timestamp where
  instant : Instant
  offset : Int
deriving Repr, DecidableEq

/-! ### Writing -/

/-- The digits after the point of a second. -/
inductive Fraction where
  /-- Three digits; the others are cut off. -/
  | millis
  /-- The fewest of 0, 3, 6 and 9 digits that lose nothing. -/
  | fewest
deriving Repr, DecidableEq

/-- The fraction of a second with its point. -/
def Fraction.text (f : Fraction) (nanos : Nat) : List Char :=
  match f with
  | millis => '.' :: paddedDigits 3 (nanos / 1000000)
  | fewest =>
    if nanos = 0 then []
    else if nanos % 1000000 = 0 then '.' :: paddedDigits 3 (nanos / 1000000)
    else if nanos % 1000 = 0 then '.' :: paddedDigits 6 (nanos / 1000)
    else '.' :: paddedDigits 9 nanos

/-- A year: four digits, and a sign if it is not between `0` and `9999`. -/
def yearText (year : Int) : List Char :=
  if 0 ≤ year ∧ year ≤ 9999 then paddedDigits 4 year.toNat
  else (if year < 0 then '-' else '+') :: paddedDigits 4 year.natAbs

/-- A date as year, month and day. -/
def Date.text (d : Date) : List Char :=
  yearText d.year ++ '-' :: paddedDigits 2 d.month ++ '-' :: paddedDigits 2 d.day

/-- A time of day. The leap second of a minute has number 60. -/
def clockText (fraction : Fraction) (second nanos : Nat) : List Char :=
  let leap := 1000000000 ≤ nanos
  let inMinute := second % 60 + (if leap then 1 else 0)
  paddedDigits 2 (second / 3600) ++ ':' :: paddedDigits 2 (second / 60 % 60) ++
    ':' :: paddedDigits 2 inMinute ++
    fraction.text (if leap then nanos - 1000000000 else nanos)

/-- An offset in hours and minutes. -/
def offsetText (offset : Int) : List Char :=
  (if offset < 0 then '-' else '+') :: paddedDigits 2 (offset.natAbs / 60) ++
    ':' :: paddedDigits 2 (offset.natAbs % 60)

namespace Instant

/-- The date and time in universal time, before the zone. -/
def civilText (fraction : Fraction) (t : Instant) : List Char :=
  (Date.ofDay t.day).text ++ 'T' :: clockText fraction t.second t.nanos

/-- The text in records: the fewest fraction digits and the zone `Z`. -/
def wireText (t : Instant) : String := String.ofList (t.civilText .fewest ++ ['Z'])

/-- The text in requests: three fraction digits and the zone `Z`. -/
def isoText (t : Instant) : String := String.ofList (t.civilText .millis ++ ['Z'])

end Instant

/-- The text in the zone of the timestamp, with a numeric offset. -/
def Timestamp.text (t : Timestamp) : String :=
  let second := (t.instant.second : Int) + t.offset * 60
  let date := Date.ofDay (t.instant.day + second / 86400)
  String.ofList (date.text ++
    'T' :: clockText .fewest (second % 86400).toNat t.instant.nanos ++ offsetText t.offset)

/-! ### Reading -/

/-- The parts of a timestamp as they were read. -/
structure TimestampParts where
  date : Date
  hour : Nat
  minute : Nat
  second : Nat
  nanos : Nat
  offset : Int
deriving Repr, DecidableEq

/-- The least year of a date. -/
def minYear : Int := -262143

/-- The greatest year of a date. -/
def maxYear : Int := 262142

/-- The timestamp with these parts, if they name one. The 60th second is the
leap second of its minute, and offsets are shorter than a day. -/
def TimestampParts.resolve? (p : TimestampParts) : Option Timestamp :=
  if p.date.isValid && decide (minYear ≤ p.date.year) && decide (p.date.year ≤ maxYear) &&
      decide (p.hour < 24) && decide (p.minute < 60) && decide (p.second ≤ 60) &&
      decide (p.offset.natAbs < 1440) then
    let inMinute := Nat.min p.second 59
    let nanos := if p.second = 60 then p.nanos + 1000000000 else p.nanos
    let second : Int := p.hour * 3600 + p.minute * 60 + inMinute - p.offset * 60
    (Instant.ofParts? (p.date.toDay + second / 86400) (second % 86400).toNat nanos).map
      fun t => ⟨t, p.offset⟩
  else none

namespace TimestampParts

/-- Reads digits: as many as there are up to `most`, and no fewer than
`least`. -/
def readNumber (least most : Nat) (cs : List Char) : Option (Nat × List Char) :=
  let ds := (cs.take most).takeWhile Char.isDigit
  if ds.length < least then none else some (digitsValue ds, cs.drop ds.length)

/-- Reads one given character. -/
def readChar (c : Char) : List Char → Option (List Char)
  | d :: rest => if d = c then some rest else none
  | [] => none

/-- Reads what stands between a date and a time of day. -/
def readSeparator : List Char → Option (List Char)
  | c :: rest => if c = 'T' ∨ c = 't' ∨ c = ' ' then some rest else none
  | [] => none

/-- Reads an optional fraction as nanoseconds; digits beyond the ninth are cut
off. -/
def readNanos : List Char → Option (Nat × List Char)
  | '.' :: cs =>
    let ds := cs.takeWhile Char.isDigit
    if ds = [] then none
    else some (digitsValue (ds.take 9) * Nat.pow 10 (9 - (ds.take 9).length), cs.drop ds.length)
  | cs => some (0, cs)

/-- Reads the sign of an offset; the minus may be the mathematical one. -/
def readOffsetSign : List Char → Option (Int × List Char)
  | '+' :: rest => some (1, rest)
  | '-' :: rest => some (-1, rest)
  | '\u2212' :: rest => some (-1, rest)
  | _ => none

/-- Reads a zone in minutes: `Z`, or a sign, hours and minutes with what
`between` reads between them. -/
def readZone (between : List Char → Option (List Char)) (cs : List Char) :
    Option (Int × List Char) :=
  match cs with
  | 'Z' :: rest => some (0, rest)
  | 'z' :: rest => some (0, rest)
  | _ => do
    let (sign, rest) ← readOffsetSign cs
    let (hours, rest) ← readNumber 2 2 rest
    let rest ← between rest
    let (minutes, rest) ← readNumber 2 2 rest
    if minutes < 60 then some (sign * (hours * 60 + minutes), rest) else none

/-- Reads a timestamp of the strict form. -/
def readStrict (cs : List Char) : Option (TimestampParts × List Char) := do
  let (year, cs) ← readNumber 4 4 cs
  let cs ← readChar '-' cs
  let (month, cs) ← readNumber 2 2 cs
  let cs ← readChar '-' cs
  let (day, cs) ← readNumber 2 2 cs
  let cs ← readSeparator cs
  let (hour, cs) ← readNumber 2 2 cs
  let cs ← readChar ':' cs
  let (minute, cs) ← readNumber 2 2 cs
  let cs ← readChar ':' cs
  let (second, cs) ← readNumber 2 2 cs
  let (nanos, cs) ← readNanos cs
  let (offset, cs) ← readZone (readChar ':') cs
  return (⟨⟨year, month, day⟩, hour, minute, second, nanos, offset⟩, cs)

/-- Reads a year: at most four digits, or any number of them after a sign. -/
def readYear (cs : List Char) : Option (Int × List Char) :=
  match cs with
  | '-' :: rest => (readNumber 1 rest.length rest).map fun (y, rest) => (-(y : Int), rest)
  | '+' :: rest => (readNumber 1 rest.length rest).map fun (y, rest) => ((y : Int), rest)
  | _ => (readNumber 1 4 cs).map fun (y, rest) => ((y : Int), rest)

/-- Reads one or two digits after white space. -/
def readLoose (cs : List Char) : Option (Nat × List Char) := readNumber 1 2 (trimStart cs)

/-- Reads a character after white space. -/
def readCharLoose (c : Char) (cs : List Char) : Option (List Char) := readChar c (trimStart cs)

/-- Reads a zone of the relaxed form: the word `UTC` in any case, or an offset
with colons and white space, or nothing, between hours and minutes. -/
def readZoneLoose (cs : List Char) : Option (Int × List Char) :=
  if (cs.take 3).map Char.toUpper = ['U', 'T', 'C'] then some (0, cs.drop 3)
  else readZone (fun cs => some (cs.dropWhile fun c => c == ':' || isBlank c)) cs

/-- Reads a timestamp of the relaxed form. -/
def readRelaxed (cs : List Char) : Option (TimestampParts × List Char) := do
  let (year, cs) ← readYear (trimStart cs)
  let cs ← readCharLoose '-' cs
  let (month, cs) ← readLoose cs
  let cs ← readCharLoose '-' cs
  let (day, cs) ← readLoose cs
  let cs ← readSeparator cs
  let (hour, cs) ← readLoose cs
  let cs ← readCharLoose ':' cs
  let (minute, cs) ← readLoose cs
  let cs ← readCharLoose ':' cs
  let (second, cs) ← readLoose cs
  let (nanos, cs) ← readNanos cs
  let (offset, cs) ← readZoneLoose (trimStart cs)
  return (⟨⟨year, month, day⟩, hour, minute, second, nanos, offset⟩, cs)

end TimestampParts

namespace Timestamp

/-- Reads a timestamp of the strict form; nothing may follow it. -/
def read? (text : String) : Option Timestamp :=
  match TimestampParts.readStrict text.toList with
  | some (p, []) => p.resolve?
  | _ => none

/-- Reads a timestamp of the relaxed form; only white space may follow it. -/
def readRelaxed? (text : String) : Option Timestamp :=
  match TimestampParts.readRelaxed text.toList with
  | some (p, rest) => if trimStart rest = [] then p.resolve? else none
  | none => none

end Timestamp

end EventQuery
