import EventQuery.Time.Calendar
import Mathlib.Data.Int.Basic
import Mathlib.Tactic.IntervalCases
import Mathlib.Tactic.Lemma
import Mathlib.Tactic.SplitIfs

/-!
Days and dates.

A year is taken to begin in March. Then the day that a leap year has more is its last one, the
months begin on the same days in each year, and a date is a day of such a year.

* `Date.toDay_eq`: the day of a date, from the days before its year and its day in that year.
* `Date.IsBefore`: the order of dates, by year, month and day; `Date.toDay_lt_iff`: days are
  counted in this order.
* `Date.isValid_ofDay`, `Date.toDay_ofDay`: each day has a date that exists.
* `Date.ofDay_toDay`: a date that exists is the date of its day.
-/

namespace EventQuery

namespace Date

lemma isValid_iff {d : Date} : d.isValid = true ↔
    (1 ≤ d.month ∧ d.month ≤ 12) ∧ 1 ≤ d.day ∧ d.day ≤ daysInMonth d.year d.month := by
  simp [isValid, and_assoc]

lemma daysInMonth_le (year : Int) (month : Nat) : daysInMonth year month ≤ 31 := by
  rw [daysInMonth]
  split_ifs <;> decide

/-! ### Years that begin in March -/

/-- The year of a date. -/
def marchYear (d : Date) : Int := if d.month ≤ 2 then d.year - 1 else d.year

/-- The month of a date, counted from March. -/
def marchMonth (d : Date) : Int := if d.month ≤ 2 then d.month + 9 else d.month - 3

/-- The days before a year. -/
def daysBeforeYear (year : Int) : Int := year * 365 + year / 4 - year / 100 + year / 400

/-- The days of a year. -/
def yearLength (year : Int) : Int := if isLeapYear (year + 1) then 366 else 365

/-- The days of a year before a month. -/
def daysBeforeMonth (month : Int) : Int := (153 * month + 2) / 5

/-- The day of a date in its year. -/
def dayOfYear (d : Date) : Int := daysBeforeMonth d.marchMonth + d.day - 1

/-- The day of a date, from the days before its year and its day in that year. -/
lemma toDay_eq (d : Date) : d.toDay = daysBeforeYear d.marchYear + d.dayOfYear - epoch := by
  simp only [toDay, dayOfYear, daysBeforeYear, daysBeforeMonth, marchMonth]
  rw [← marchYear]
  omega

/-- Years follow one another. -/
lemma daysBeforeYear_succ (year : Int) :
    daysBeforeYear (year + 1) = daysBeforeYear year + yearLength year := by
  simp only [daysBeforeYear, yearLength, isLeapYear, Bool.and_eq_true, Bool.or_eq_true,
    bne_iff_ne, decide_eq_true_eq]
  split_ifs <;> omega

lemma daysBeforeYear_le {year year' : Int} (h : year < year') :
    daysBeforeYear year + yearLength year ≤ daysBeforeYear year' := by
  rw [← daysBeforeYear_succ]
  simp only [daysBeforeYear]
  omega

/-- Months follow one another, and after February comes the next year. -/
lemma daysBeforeMonth_add {d : Date} (hmonth : 1 ≤ d.month ∧ d.month ≤ 12) :
    daysBeforeMonth d.marchMonth + daysInMonth d.year d.month
      = if d.marchMonth < 11 then daysBeforeMonth (d.marchMonth + 1)
        else yearLength d.marchYear := by
  obtain ⟨year, month, day⟩ := d
  obtain ⟨hge, hle⟩ : 1 ≤ month ∧ month ≤ 12 := hmonth
  simp only [marchMonth, marchYear, daysBeforeMonth, daysInMonth, yearLength]
  interval_cases month <;> simp
  split_ifs <;> rfl

/-- A date that exists is a day of its month, and with it of its year. -/
lemma dayOfYear_bounds {d : Date} (h : d.isValid = true) :
    (0 ≤ d.marchMonth ∧ d.marchMonth ≤ 11) ∧ daysBeforeMonth d.marchMonth ≤ d.dayOfYear ∧
      d.dayOfYear < yearLength d.marchYear ∧
      (d.marchMonth < 11 → d.dayOfYear < daysBeforeMonth (d.marchMonth + 1)) := by
  obtain ⟨hmonth, hday⟩ := isValid_iff.mp h
  have hmarch : 0 ≤ d.marchMonth ∧ d.marchMonth ≤ 11 := by
    rw [marchMonth]
    split_ifs <;> omega
  have hlength : 365 ≤ yearLength d.marchYear := by
    rw [yearLength]
    split_ifs <;> omega
  have hnext := daysBeforeMonth_add hmonth
  have hlate : d.marchMonth < 11 → daysBeforeMonth (d.marchMonth + 1) ≤ 337 := by
    rw [daysBeforeMonth]
    omega
  refine ⟨hmarch, ?_, ?_, ?_⟩ <;> rw [dayOfYear]
  · omega
  · split_ifs at hnext with hlast
    · have := hlate hlast
      omega
    · omega
  · intro hlast
    rw [if_pos hlast] at hnext
    omega

/-! ### The order of days -/

/-- A date is before another one: by year, then by month, then by day. -/
def IsBefore (d e : Date) : Prop :=
  d.year < e.year ∨ d.year = e.year ∧ (d.month < e.month ∨ d.month = e.month ∧ d.day < e.day)

/-- In the order of dates it does not count where years begin. -/
lemma IsBefore.march {d e : Date} (h : d.IsBefore e) (hd : d.isValid = true)
    (he : e.isValid = true) :
    d.marchYear < e.marchYear ∨ d.marchYear = e.marchYear ∧
      (d.marchMonth < e.marchMonth ∨ d.marchMonth = e.marchMonth ∧ d.day < e.day) := by
  have hmonth := (isValid_iff.mp hd).1
  have hmonth' := (isValid_iff.mp he).1
  simp only [IsBefore, marchYear, marchMonth] at h ⊢
  split_ifs <;> omega

lemma toDay_lt_of_isBefore {d e : Date} (hd : d.isValid = true) (he : e.isValid = true)
    (h : d.IsBefore e) : d.toDay < e.toDay := by
  obtain ⟨-, hge, hlt, hmonth⟩ := dayOfYear_bounds hd
  obtain ⟨⟨-, hlast⟩, hge', -, -⟩ := dayOfYear_bounds he
  rw [toDay_eq, toDay_eq]
  rcases h.march hd he with hyear | ⟨hyear, hmonths | ⟨hmonths, hday⟩⟩
  · have hdays := daysBeforeYear_le hyear
    simp only [daysBeforeMonth] at hge'
    have hpos := (dayOfYear_bounds he).1.1
    omega
  · have hnext := hmonth (by omega)
    rw [hyear]
    simp only [daysBeforeMonth] at hnext hge'
    omega
  · rw [hyear, dayOfYear, dayOfYear, hmonths]
    omega

lemma eq_iff {d e : Date} : d = e ↔ d.year = e.year ∧ d.month = e.month ∧ d.day = e.day := by
  cases d
  cases e
  simp

lemma isBefore_or_eq_or_isBefore (d e : Date) : d.IsBefore e ∨ d = e ∨ e.IsBefore d := by
  rw [IsBefore, IsBefore, eq_iff]
  omega

/-- **Days are counted in the order of dates.** -/
theorem toDay_lt_iff {d e : Date} (hd : d.isValid = true) (he : e.isValid = true) :
    d.toDay < e.toDay ↔ d.IsBefore e := by
  refine ⟨fun h => ?_, toDay_lt_of_isBefore hd he⟩
  rcases isBefore_or_eq_or_isBefore d e with hlt | rfl | hgt
  · exact hlt
  · omega
  · have := toDay_lt_of_isBefore he hd hgt
    omega

lemma toDay_inj {d e : Date} (hd : d.isValid = true) (he : e.isValid = true)
    (h : d.toDay = e.toDay) : d = e := by
  rcases isBefore_or_eq_or_isBefore d e with hlt | heq | hgt
  · have := toDay_lt_of_isBefore hd he hlt
    omega
  · exact heq
  · have := toDay_lt_of_isBefore he hd hgt
    omega

/-! ### The date of a day -/

/-- The month of a day of a year, counted from March. -/
def monthOf (day : Int) : Int := (5 * day + 2) / 153

/-- The date of a day of a year, counted from zero. -/
def ofDayOfYear (year day : Int) : Date :=
  ⟨if monthOf day < 10 then year else year + 1,
    (if monthOf day < 10 then monthOf day + 3 else monthOf day - 9).toNat,
    (day - daysBeforeMonth (monthOf day) + 1).toNat⟩

lemma yearLength_le (year : Int) : yearLength year ≤ 366 := by
  rw [yearLength]
  split_ifs <;> omega

/-- A day of a year is a day of its month. -/
lemma monthOf_bounds {day : Int} (hday : 0 ≤ day) (hlt : day < 366) :
    (0 ≤ monthOf day ∧ monthOf day ≤ 11) ∧ daysBeforeMonth (monthOf day) ≤ day ∧
      day < daysBeforeMonth (monthOf day + 1) := by
  simp only [monthOf, daysBeforeMonth]
  omega

/-- The date of a day of a year is in that year, and in the month of the day. -/
lemma march_ofDayOfYear (year : Int) {day : Int} (hmonth : 0 ≤ monthOf day ∧ monthOf day ≤ 11) :
    (ofDayOfYear year day).marchYear = year ∧
      (ofDayOfYear year day).marchMonth = monthOf day := by
  simp only [marchYear, marchMonth, ofDayOfYear]
  constructor <;> split_ifs <;> omega

/-- The day of the month, counted from one. -/
lemma day_ofDayOfYear (year : Int) {day : Int} (h : daysBeforeMonth (monthOf day) ≤ day) :
    ((ofDayOfYear year day).day : Int) = day - daysBeforeMonth (monthOf day) + 1 :=
  Int.toNat_of_nonneg (by omega)

lemma dayOfYear_ofDayOfYear {year day : Int} (hday : 0 ≤ day) (hlt : day < yearLength year) :
    (ofDayOfYear year day).dayOfYear = day := by
  obtain ⟨hmonth, hge, -⟩ := monthOf_bounds hday (lt_of_lt_of_le hlt (yearLength_le year))
  rw [dayOfYear, (march_ofDayOfYear year hmonth).2, day_ofDayOfYear year hge]
  omega

/-- The date of a day of a year exists. -/
lemma isValid_ofDayOfYear {year day : Int} (hday : 0 ≤ day) (hlt : day < yearLength year) :
    (ofDayOfYear year day).isValid = true := by
  obtain ⟨hmonth, hge, hnext⟩ := monthOf_bounds hday (lt_of_lt_of_le hlt (yearLength_le year))
  obtain ⟨hmarchYear, hmarchMonth⟩ := march_ofDayOfYear year hmonth
  have hdate := day_ofDayOfYear year hge
  have hnumber : 1 ≤ (ofDayOfYear year day).month ∧ (ofDayOfYear year day).month ≤ 12 := by
    simp only [ofDayOfYear]
    split_ifs <;> omega
  have hlength := daysBeforeMonth_add hnumber
  rw [hmarchYear, hmarchMonth] at hlength
  refine isValid_iff.mpr ⟨hnumber, by omega, ?_⟩
  split_ifs at hlength <;> omega

/-- The days before a year: those of cycles of 400 years, centuries, groups of four years and
single ones. -/
lemma daysBeforeYear_parts (cycle : Int) {century group year : Int}
    (hcentury : 0 ≤ century ∧ century ≤ 3) (hgroup : 0 ≤ group ∧ group ≤ 24)
    (hyear : 0 ≤ year ∧ year ≤ 3) :
    daysBeforeYear (cycle * 400 + century * 100 + group * 4 + year)
      = cycle * 146097 + century * 36524 + group * 1461 + year * 365 := by
  have hfours : (cycle * 400 + century * 100 + group * 4 + year) / 4
      = cycle * 100 + century * 25 + group := by omega
  have hhundreds : (cycle * 400 + century * 100 + group * 4 + year) / 100
      = cycle * 4 + century := by omega
  have hcycles : (cycle * 400 + century * 100 + group * 4 + year) / 400 = cycle := by omega
  rw [daysBeforeYear, hfours, hhundreds, hcycles]
  omega

/-- The longer years: the last of each group, but at the end of a century only where a cycle ends
with it. -/
lemma yearLength_parts (cycle : Int) {century group year : Int}
    (hcentury : 0 ≤ century ∧ century ≤ 3) (hgroup : 0 ≤ group ∧ group ≤ 24)
    (hyear : 0 ≤ year ∧ year ≤ 3) :
    yearLength (cycle * 400 + century * 100 + group * 4 + year)
      = if year = 3 ∧ (group = 24 → century = 3) then 366 else 365 := by
  simp only [yearLength, isLeapYear, Bool.and_eq_true, Bool.or_eq_true, bne_iff_ne,
    decide_eq_true_eq]
  congr 1
  rw [eq_iff_iff]
  omega

/-- A day falls into the days before a year and a day of that year. -/
lemma exists_ofDay (day : Int) : ∃ year dayOfYear, 0 ≤ dayOfYear ∧ dayOfYear < yearLength year ∧
    day + epoch = daysBeforeYear year + dayOfYear ∧ ofDay day = ofDayOfYear year dayOfYear := by
  obtain ⟨count, hcount⟩ : ∃ count, count = day + epoch := ⟨_, rfl⟩
  obtain ⟨century, hcentury⟩ : ∃ c, c = min (count % 146097 / 36524) 3 := ⟨_, rfl⟩
  obtain ⟨inCentury, hinCentury⟩ : ∃ n, n = count % 146097 - century * 36524 := ⟨_, rfl⟩
  obtain ⟨year, hyear⟩ : ∃ y, y = min (inCentury % 1461 / 365) 3 := ⟨_, rfl⟩
  have hcenturies : 0 ≤ century ∧ century ≤ 3 := by omega
  have hgroups : 0 ≤ inCentury / 1461 ∧ inCentury / 1461 ≤ 24 := by omega
  have hyears : 0 ≤ year ∧ year ≤ 3 := by omega
  refine ⟨count / 146097 * 400 + century * 100 + inCentury / 1461 * 4 + year,
    inCentury % 1461 - year * 365, by omega, ?_, ?_, ?_⟩
  · rw [yearLength_parts _ hcenturies hgroups hyears]
    split_ifs <;> omega
  · rw [daysBeforeYear_parts _ hcenturies hgroups hyears]
    omega
  · rw [hyear, hinCentury, hcentury, hcount]
    rfl

/-- Each day has a date that exists. -/
theorem isValid_ofDay (day : Int) : (ofDay day).isValid = true := by
  obtain ⟨year, dayOfYear, hge, hlt, -, hdate⟩ := exists_ofDay day
  rw [hdate]
  exact isValid_ofDayOfYear hge hlt

/-- The date of a day is on that day. -/
theorem toDay_ofDay (day : Int) : (ofDay day).toDay = day := by
  obtain ⟨year, dayOfYear, hge, hlt, hday, hdate⟩ := exists_ofDay day
  have hmonth := (monthOf_bounds hge (lt_of_lt_of_le hlt (yearLength_le year))).1
  rw [hdate, toDay_eq, (march_ofDayOfYear year hmonth).1, dayOfYear_ofDayOfYear hge hlt]
  omega

/-- A date that exists is the date of its day. -/
theorem ofDay_toDay {d : Date} (h : d.isValid = true) : ofDay d.toDay = d :=
  toDay_inj (isValid_ofDay _) h (toDay_ofDay _)

end Date

end EventQuery
