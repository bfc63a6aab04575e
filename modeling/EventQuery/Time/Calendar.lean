/-!
The proleptic Gregorian calendar.

Days are counted from the first of January 1970. Years are taken to begin in
March, so that the day a leap year has more is its last one; the calendar then
repeats every 400 years, which are `146097` days.

* `Date.toDay` counts the days to a date.
* `Date.ofDay` is the date of a day.
-/

namespace EventQuery

/-- A calendar date; the year before `1` is `0`. -/
structure Date where
  year : Int
  month : Nat
  day : Nat
deriving Repr, DecidableEq

namespace Date

/-- Whether a year has a 29th of February. -/
def isLeapYear (year : Int) : Bool :=
  year % 4 = 0 && (year % 100 != 0 || year % 400 = 0)

/-- The number of days of a month. -/
def daysInMonth (year : Int) (month : Nat) : Nat :=
  if month = 2 then (if isLeapYear year then 29 else 28)
  else if month = 4 ∨ month = 6 ∨ month = 9 ∨ month = 11 then 30
  else 31

/-- Whether the month and the day exist. -/
def isValid (d : Date) : Bool :=
  1 ≤ d.month && d.month ≤ 12 && 1 ≤ d.day && d.day ≤ daysInMonth d.year d.month

/-- The number of days from the first of March of the year `0` to the first of
January 1970. -/
def epoch : Int := 719468

/-- The day of a date. -/
def toDay (d : Date) : Int :=
  let year := if d.month ≤ 2 then d.year - 1 else d.year
  let cycle := year / 400
  let inCycle := year % 400
  let month : Int := if d.month ≤ 2 then d.month + 9 else d.month - 3
  let dayOfYear := (153 * month + 2) / 5 + d.day - 1
  cycle * 146097 + inCycle * 365 + inCycle / 4 - inCycle / 100 + dayOfYear - epoch

/-- The date of a day: first the cycle of 400 years, then the century, the group
of four years, the year and the month. The last day of a leap year belongs to
the year and the century that it ends. -/
def ofDay (day : Int) : Date :=
  let day := day + epoch
  let cycle := day / 146097
  let inCycle := day % 146097
  let century := min (inCycle / 36524) 3
  let inCentury := inCycle - century * 36524
  let group := inCentury / 1461
  let inGroup := inCentury % 1461
  let yearInGroup := min (inGroup / 365) 3
  let dayOfYear := inGroup - yearInGroup * 365
  let month := (5 * dayOfYear + 2) / 153
  let dayOfMonth := dayOfYear - (153 * month + 2) / 5 + 1
  let year := cycle * 400 + century * 100 + group * 4 + yearInGroup
  ⟨if month < 10 then year else year + 1,
    (if month < 10 then month + 3 else month - 9).toNat, dayOfMonth.toNat⟩

end Date

end EventQuery
