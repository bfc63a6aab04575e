import EventQuery.Error
import EventQuery.Time.Calendar

/-!
Instants of universal time.

An instant is a day, a second of the day and nanoseconds. A leap second is told
by the nanoseconds: they go on beyond `10 ^ 9` in the last second of a minute.
Instants are ordered by their three parts in turn (`Instant.le`).

* `Instant.ofCivil` is the instant of a date and a time of day.
* `Instant.nanosSince` is the time between two instants. Of the leap seconds in
  between it knows only those at one of the two ends.
-/

namespace EventQuery

/-- The first day that can be spoken of: the first of January `-262143`. -/
def minDay : Int := -96465292

/-- The last day that can be spoken of: the last of December `262142`. -/
def maxDay : Int := 95026236

/-- An instant: a day counted from 1970, a second of that day, and nanoseconds
of that second. -/
structure Instant where
  day : Int
  second : Nat
  nanos : Nat
  day_ge : minDay ≤ day
  day_le : day ≤ maxDay
  second_lt : second < 86400
  nanos_lt : nanos < 2000000000
  leap : nanos < 1000000000 ∨ second % 60 = 59
deriving Repr, DecidableEq

namespace Instant

/-- The instant with these parts, if there is one. -/
def ofParts? (day : Int) (second nanos : Nat) : Option Instant :=
  if h : minDay ≤ day ∧ day ≤ maxDay ∧ second < 86400 ∧ nanos < 2000000000 ∧
      (nanos < 1000000000 ∨ second % 60 = 59) then
    some ⟨day, second, nanos, h.1, h.2.1, h.2.2.1, h.2.2.2.1, h.2.2.2.2⟩
  else none

/-- The order of instants: by day, then by second, then by nanoseconds. -/
def le (t u : Instant) : Bool :=
  t.day < u.day ||
    (t.day == u.day && (t.second < u.second || (t.second == u.second && t.nanos ≤ u.nanos)))

/-- Whether the nanoseconds lie in a leap second. -/
def inLeapSecond (t : Instant) : Bool := 1000000000 ≤ t.nanos

/-- The nanoseconds from `u` to `t`. A leap second at the end whose time of day
is the earlier one counts in full. -/
def nanosSince (t u : Instant) : Int :=
  let seconds := (t.day - u.day) * 86400 + t.second - u.second
  let leap : Int :=
    if u.second < t.second then (if u.inLeapSecond then 1 else 0)
    else if t.second < u.second then (if t.inLeapSecond then -1 else 0)
    else 0
  (seconds + leap) * 1000000000 + t.nanos - u.nanos

/-- The whole milliseconds from `u` to `t`, rounded toward zero. -/
def millisSince (t u : Instant) : Int := (t.nanosSince u).tdiv 1000000

/-- The instant of a date and a time of day, without leap seconds. -/
def ofCivil? (c : CivilTime) : Option Instant :=
  let date : Date := ⟨c.year, c.month, c.day⟩
  if date.isValid && decide (c.hour < 24) && decide (c.minute < 60) && decide (c.second < 60) then
    ofParts? date.toDay (c.hour * 3600 + c.minute * 60 + c.second) 0
  else none

/-- The instant of a date and a time of day. -/
def ofCivil (c : CivilTime) : Except QueryError Instant :=
  match ofCivil? c with
  | some t => .ok t
  | none => .error (.invalidTimestamp c)

end Instant

end EventQuery
