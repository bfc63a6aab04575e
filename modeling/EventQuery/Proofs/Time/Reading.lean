import EventQuery.Proofs.Text.Rows
import EventQuery.Proofs.Time.Calendar
import EventQuery.Time.Text
import Mathlib.Data.List.TakeWhile

/-!
Timestamps as their texts place them.

A timestamp names a minute by its date, its time of day and its offset; within the minute it
names a second, up to sixty, and a fraction of it. An instant is counted in seconds from the
beginning of its day, in universal time, with the leap second as a longer second before it.

* `Instant.minuteNumber`, `Instant.clockSecond`, `Instant.fraction`: the place of an instant,
  which tells it from all others (`Instant.eq_iff`).
* `TimestampParts.resolve?_eq_some_iff`: parts name the instant at their place.
* `TimestampParts.ofText?`: the parts of a text, with a fraction below a second
  (`nanos_lt_of_ofText?`).
* `Instant.isoText_toList`: up to the year 9999, an instant is written as a row of numbers in
  columns.
* `Instant.wholeMillis`, `Instant.read?_isoText`: this text is read as the instant without
  what is less than a millisecond.
-/

namespace EventQuery

/-! ### Places in time -/

namespace Instant

variable {t u : Instant}

/-- The minute in which an instant lies, counted from the beginning of 1970. -/
def minuteNumber (t : Instant) : Int := t.day * 1440 + t.second / 60

/-- The second of its minute in which an instant lies; the leap second has the number 60. -/
def clockSecond (t : Instant) : Nat := t.second % 60 + if 1000000000 ≤ t.nanos then 1 else 0

/-- The nanoseconds of its second at which an instant lies. -/
def fraction (t : Instant) : Nat :=
  if 1000000000 ≤ t.nanos then t.nanos - 1000000000 else t.nanos

lemma eq_of_parts (hday : t.day = u.day) (hsecond : t.second = u.second)
    (hnanos : t.nanos = u.nanos) : t = u := by
  cases t
  cases u
  cases hday
  cases hsecond
  cases hnanos
  rfl

/-- An instant is told by its minute, its second and its nanoseconds. -/
lemma eq_iff : t = u ↔
    t.minuteNumber = u.minuteNumber ∧ t.clockSecond = u.clockSecond ∧ t.fraction = u.fraction := by
  refine ⟨fun h => h ▸ ⟨rfl, rfl, rfl⟩, fun ⟨hminute, hsecond, hfraction⟩ => ?_⟩
  have ht := t.second_lt
  have hu := u.second_lt
  have htleap := t.leap
  have huleap := u.leap
  simp only [minuteNumber, clockSecond, fraction] at hminute hsecond hfraction
  refine eq_of_parts ?_ ?_ ?_ <;> split_ifs at * <;> omega

lemma ofParts?_eq_some_iff {day : Int} {second nanos : Nat} :
    ofParts? day second nanos = some t ↔ t.day = day ∧ t.second = second ∧ t.nanos = nanos := by
  rw [ofParts?]
  split_ifs with h
  · rw [Option.some.injEq]
    exact ⟨fun ht => ht ▸ ⟨rfl, rfl, rfl⟩, fun ⟨hday, hsecond, hnanos⟩ =>
      eq_of_parts hday.symm hsecond.symm hnanos.symm⟩
  · refine ⟨fun ht => (nomatch ht), ?_⟩
    rintro ⟨rfl, rfl, rfl⟩
    exact absurd ⟨t.day_ge, t.day_le, t.second_lt, t.nanos_lt, t.leap⟩ h

end Instant

namespace TimestampParts

/-- The minute that parts name in universal time, counted from the beginning of 1970. -/
def minuteNumber (p : TimestampParts) : Int :=
  p.date.toDay * 1440 + p.hour * 60 + p.minute - p.offset

/-- Parts that name a date, a time of day, and a zone that is less than a day away. -/
@[mk_iff] structure IsProper (p : TimestampParts) : Prop where
  date : p.date.isValid = true
  year_ge : minYear ≤ p.date.year
  year_le : p.date.year ≤ maxYear
  hour_lt : p.hour < 24
  minute_lt : p.minute < 60
  second_le : p.second ≤ 60
  offset_lt : p.offset.natAbs < 1440

variable {p : TimestampParts}

/-- The second that parts name in universal time, counted from the beginning of their date; a leap
second counts as the one before it. -/
def secondOfDay (p : TimestampParts) : Int :=
  p.hour * 3600 + p.minute * 60 + (Nat.min p.second 59 : Nat) - p.offset * 60

/-- The nanoseconds that parts name, beyond `10 ^ 9` in a leap second. -/
def allNanos (p : TimestampParts) : Nat :=
  if p.second = 60 then p.nanos + 1000000000 else p.nanos

/-- What proper parts name. -/
lemma IsProper.resolve?_eq (h : p.IsProper) : p.resolve?
    = (Instant.ofParts? (p.date.toDay + p.secondOfDay / 86400) (p.secondOfDay % 86400).toNat
        p.allNanos).map fun t => ⟨t, p.offset⟩ := by
  rw [resolve?, if_pos]
  · rfl
  · simpa only [isProper_iff, Bool.and_eq_true, decide_eq_true_eq, and_assoc] using h

lemma isProper_of_resolve? {t : Timestamp} (h : p.resolve? = some t) : p.IsProper := by
  by_contra hnot
  rw [resolve?, if_neg] at h
  · cases h
  · simpa only [isProper_iff, Bool.and_eq_true, decide_eq_true_eq, and_assoc] using hnot

/-- An instant is in the minute that parts name if it is on their day, at their second. -/
lemma IsProper.place_iff (h : p.IsProper) (hnanos : p.nanos < 1000000000) {t : Instant} :
    (t.day = p.date.toDay + p.secondOfDay / 86400 ∧ t.second = (p.secondOfDay % 86400).toNat ∧
        t.nanos = p.allNanos) ↔
      t.minuteNumber = p.minuteNumber ∧ t.clockSecond = p.second ∧ t.fraction = p.nanos := by
  have hsecond := h.second_le
  have ht := t.second_lt
  have hleap := t.leap
  simp only [secondOfDay, allNanos, Instant.minuteNumber, minuteNumber, Instant.clockSecond,
    Instant.fraction]
  have hmin : Nat.min p.second 59 = min p.second 59 := rfl
  rw [hmin]
  split_ifs <;> omega

/-- **Parts name the instant at their place**: in their minute of universal time, with their second
and their nanoseconds. -/
lemma resolve?_eq_some_iff (hnanos : p.nanos < 1000000000) {t : Timestamp} :
    p.resolve? = some t ↔ p.IsProper ∧ t.offset = p.offset ∧
      t.instant.minuteNumber = p.minuteNumber ∧ t.instant.clockSecond = p.second ∧
      t.instant.fraction = p.nanos := by
  constructor
  · intro h
    have hp := isProper_of_resolve? h
    rw [hp.resolve?_eq, Option.map_eq_some_iff] at h
    obtain ⟨u, hu, rfl⟩ := h
    exact ⟨hp, rfl, (hp.place_iff hnanos).mp (Instant.ofParts?_eq_some_iff.mp hu)⟩
  · rintro ⟨hp, hoffset, hplace⟩
    have hu := Instant.ofParts?_eq_some_iff.mpr ((hp.place_iff hnanos).mpr hplace)
    rw [hp.resolve?_eq, hu, Option.map_some, ← hoffset]

/-! ### The strict form -/

/-- The parts of a text of the strict form. -/
def ofText? (text : String) : Option TimestampParts :=
  match readStrict text.toList with
  | some (p, []) => some p
  | _ => none

/-- A fraction is less than a second. -/
lemma readNanos_lt {cs rest : List Char} {nanos : Nat} (h : readNanos cs = some (nanos, rest)) :
    nanos < 1000000000 := by
  rw [readNanos.eq_def] at h
  split at h
  · rename_i cs
    simp only at h
    split_ifs at h
    simp only [Option.some.injEq, Prod.mk.injEq] at h
    obtain ⟨rfl, -⟩ := h
    have hdigits : AreDigits ((cs.takeWhile Char.isDigit).take 9) :=
      fun c hc => List.mem_takeWhile_imp (List.mem_of_mem_take hc)
    have hlength : ((cs.takeWhile Char.isDigit).take 9).length ≤ 9 := List.length_take_le _ _
    calc digitsValue ((cs.takeWhile Char.isDigit).take 9)
          * Nat.pow 10 (9 - ((cs.takeWhile Char.isDigit).take 9).length)
        < 10 ^ ((cs.takeWhile Char.isDigit).take 9).length
          * 10 ^ (9 - ((cs.takeWhile Char.isDigit).take 9).length) :=
          Nat.mul_lt_mul_of_pos_right hdigits.digitsValue_lt (Nat.pow_pos (by decide))
      _ = 1000000000 := by rw [← Nat.pow_add, Nat.add_sub_cancel' hlength]
  · cases h
    decide

lemma nanos_lt_of_readStrict {cs rest : List Char} {p : TimestampParts}
    (h : readStrict cs = some (p, rest)) : p.nanos < 1000000000 := by
  rw [readStrict] at h
  -- eleven parts are read before the fraction
  iterate 11 obtain ⟨_, -, h⟩ := Option.bind_eq_some_iff.mp h
  obtain ⟨_, hnanos, h⟩ := Option.bind_eq_some_iff.mp h
  obtain ⟨_, -, h⟩ := Option.bind_eq_some_iff.mp h
  cases h
  exact readNanos_lt hnanos

lemma nanos_lt_of_ofText? {text : String} {p : TimestampParts} (h : ofText? text = some p) :
    p.nanos < 1000000000 := by
  rw [ofText?] at h
  split at h
  · rename_i hread
    cases h
    exact nanos_lt_of_readStrict hread
  · cases h

/-- A padded number is read in its width. -/
lemma readNumber_paddedDigits {width n : Nat} (hwidth : 0 < width) (h : n < 10 ^ width)
    (rest : List Char) :
    readNumber width width (paddedDigits width n ++ rest) = some (n, rest) := by
  have hlength := length_paddedDigits hwidth h
  have htake : ((paddedDigits width n ++ rest).take width).takeWhile Char.isDigit
      = paddedDigits width n := by
    rw [List.take_left' hlength]
    exact List.takeWhile_eq_self_iff.mpr (areDigits_paddedDigits width n)
  rw [readNumber]
  simp only [htake, hlength, lt_irrefl, if_false, digitsValue_paddedDigits, List.drop_left' hlength]

lemma readChar_cons (c : Char) (rest : List Char) : readChar c (c :: rest) = some rest := by
  rw [readChar, if_pos rfl]

/-- What is read first is read, and then the rest. -/
lemma bind_of_eq_some {α β : Type} {x : Option α} {a : α} (hx : x = some a) {f : α → Option β}
    {b : β} (hf : f a = some b) : (x >>= f) = some b := by
  rw [hx]
  exact hf

/-- Three digits after a point are milliseconds. -/
lemma readNanos_millis {millis : Nat} (h : millis < 1000) (rest : List Char)
    (hrest : ∀ c, rest.head? = some c → c.isDigit = false) :
    readNanos ('.' :: (paddedDigits 3 millis ++ rest)) = some (millis * 1000000, rest) := by
  have hlength : (paddedDigits 3 millis).length = 3 := length_paddedDigits (by decide) h
  have hdigits := List.span_eq_takeWhile_dropWhile (p := Char.isDigit)
    (l := paddedDigits 3 millis ++ rest)
  rw [span_digits (areDigits_paddedDigits 3 millis) rest hrest, Prod.mk.injEq] at hdigits
  have hne : paddedDigits 3 millis ≠ [] := by
    intro hnil
    rw [hnil] at hlength
    cases hlength
  have htake : (paddedDigits 3 millis).take 9 = paddedDigits 3 millis :=
    List.take_of_length_le (by omega)
  rw [readNanos]
  simp only [← hdigits.1, if_neg hne, htake, hlength, digitsValue_paddedDigits,
    List.drop_left' hlength]

end TimestampParts

lemma Timestamp.read?_eq (text : String) :
    Timestamp.read? text = (TimestampParts.ofText? text).bind TimestampParts.resolve? := by
  rw [read?, TimestampParts.ofText?]
  rcases TimestampParts.readStrict text.toList with _ | ⟨p, _ | ⟨c, rest⟩⟩ <;> rfl

/-! ### Written instants -/

/-- The columns of the text of an instant in requests, up to the year 9999. -/
def isoColumns : List (Nat × Char) :=
  [(4, '-'), (2, '-'), (2, 'T'), (2, ':'), (2, ':'), (2, '.'), (3, 'Z')]

namespace Instant

/-- The numbers in these columns: those of the date, those of the time of day and the whole
milliseconds. -/
def isoRow (t : Instant) : List Nat :=
  [(Date.ofDay t.day).year.toNat, (Date.ofDay t.day).month, (Date.ofDay t.day).day,
    t.second / 3600, t.second / 60 % 60, t.clockSecond, t.fraction / 1000000]

lemma clockSecond_le (t : Instant) : t.clockSecond ≤ 60 := by
  rw [clockSecond]
  split_ifs <;> omega

lemma fraction_lt (t : Instant) : t.fraction < 1000000000 := by
  have hnanos := t.nanos_lt
  rw [fraction]
  split_ifs <;> omega

lemma isoRow_fits {t : Instant} (h : (Date.ofDay t.day).year ≤ 9999) :
    Fits isoColumns t.isoRow := by
  obtain ⟨⟨-, hmonth⟩, -, hday⟩ := Date.isValid_iff.mp (Date.isValid_ofDay t.day)
  have hdays : (Date.ofDay t.day).day ≤ 31 := hday.trans (Date.daysInMonth_le _ _)
  have hsecond := t.second_lt
  have hclock := t.clockSecond_le
  have hfraction := t.fraction_lt
  simp only [Fits, isoColumns, isoRow, List.forall₂_cons, List.Forall₂.nil, and_true]
  omega

lemma isoText_toList {t : Instant}
    (h : 0 ≤ (Date.ofDay t.day).year ∧ (Date.ofDay t.day).year ≤ 9999) :
    t.isoText.toList = rowText isoColumns t.isoRow := by
  rw [isoText, String.toList_ofList, civilText, Date.text, yearText, if_pos h, clockText]
  simp only [Fraction.text, List.append_assoc, List.cons_append, rowText, isoColumns,
    isoRow, clockSecond, fraction]

end Instant

/-- **Columns of this form are read as their numbers.** -/
lemma TimestampParts.readStrict_rowText {year month day hour minute second millis : Nat}
    (h : Fits isoColumns [year, month, day, hour, minute, second, millis]) :
    readStrict (rowText isoColumns [year, month, day, hour, minute, second, millis])
      = some (⟨⟨year, month, day⟩, hour, minute, second, millis * 1000000, 0⟩, []) := by
  simp only [Fits, isoColumns, List.forall₂_cons] at h
  obtain ⟨hyear, hmonth, hday, hhour, hminute, hsecond, hmillis, -⟩ := h
  have hzone : ∀ c, ['Z'].head? = some c → c.isDigit = false := by
    rintro c ⟨⟩
    rfl
  rw [readStrict]
  refine bind_of_eq_some (readNumber_paddedDigits hyear.1 hyear.2 _) ?_
  refine bind_of_eq_some (readChar_cons _ _) ?_
  refine bind_of_eq_some (readNumber_paddedDigits hmonth.1 hmonth.2 _) ?_
  refine bind_of_eq_some (readChar_cons _ _) ?_
  refine bind_of_eq_some (readNumber_paddedDigits hday.1 hday.2 _) ?_
  refine bind_of_eq_some (by rfl) ?_
  refine bind_of_eq_some (readNumber_paddedDigits hhour.1 hhour.2 _) ?_
  refine bind_of_eq_some (readChar_cons _ _) ?_
  refine bind_of_eq_some (readNumber_paddedDigits hminute.1 hminute.2 _) ?_
  refine bind_of_eq_some (readChar_cons _ _) ?_
  refine bind_of_eq_some (readNumber_paddedDigits hsecond.1 hsecond.2 _) ?_
  exact bind_of_eq_some (readNanos_millis hmillis.2 ['Z'] hzone) rfl

namespace Instant

/-- An instant without what is less than a millisecond. -/
def wholeMillis (t : Instant) : Instant where
  day := t.day
  second := t.second
  nanos := t.nanos / 1000000 * 1000000
  day_ge := t.day_ge
  day_le := t.day_le
  second_lt := t.second_lt
  nanos_lt := Nat.lt_of_le_of_lt (Nat.div_mul_le_self _ _) t.nanos_lt
  leap := t.leap.imp_left (Nat.lt_of_le_of_lt (Nat.div_mul_le_self _ _))

lemma minuteNumber_wholeMillis (t : Instant) : t.wholeMillis.minuteNumber = t.minuteNumber := rfl

lemma nanos_wholeMillis (t : Instant) : t.wholeMillis.nanos = t.nanos / 1000000 * 1000000 := rfl

lemma nanos_wholeMillis_ge_iff (t : Instant) :
    1000000000 ≤ t.wholeMillis.nanos ↔ 1000000000 ≤ t.nanos := by
  rw [nanos_wholeMillis]
  omega

lemma clockSecond_wholeMillis (t : Instant) : t.wholeMillis.clockSecond = t.clockSecond := by
  simp only [clockSecond, nanos_wholeMillis_ge_iff]
  rfl

lemma fraction_wholeMillis (t : Instant) :
    t.wholeMillis.fraction = t.fraction / 1000000 * 1000000 := by
  have hge := t.nanos_wholeMillis_ge_iff
  simp only [fraction, hge]
  rw [nanos_wholeMillis]
  split_ifs <;> omega

/-- The text of an instant has the parts of its whole milliseconds. -/
lemma ofText?_isoText {t : Instant}
    (h : 0 ≤ (Date.ofDay t.day).year ∧ (Date.ofDay t.day).year ≤ 9999) :
    TimestampParts.ofText? t.isoText = some ⟨Date.ofDay t.day, t.second / 3600, t.second / 60 % 60,
      t.clockSecond, t.fraction / 1000000 * 1000000, 0⟩ := by
  rw [TimestampParts.ofText?, isoText_toList h, isoRow,
    TimestampParts.readStrict_rowText (isoRow_fits h.2), Int.toNat_of_nonneg h.1]

/-- **The text of an instant is read as its whole milliseconds.** -/
theorem read?_isoText {t : Instant}
    (h : 0 ≤ (Date.ofDay t.day).year ∧ (Date.ofDay t.day).year ≤ 9999) :
    Timestamp.read? t.isoText = some ⟨t.wholeMillis, 0⟩ := by
  have hsecond := t.second_lt
  have hfraction := t.fraction_lt
  rw [Timestamp.read?_eq, ofText?_isoText h, Option.bind_some,
    TimestampParts.resolve?_eq_some_iff (show _ < _ by dsimp only; omega)]
  refine ⟨⟨Date.isValid_ofDay _, ?_, ?_, ?_, ?_, t.clockSecond_le, ?_⟩, rfl, ?_,
    t.clockSecond_wholeMillis, t.fraction_wholeMillis⟩
  · exact le_trans (by decide) h.1
  · exact le_trans h.2 (by decide)
  · dsimp only
    omega
  · dsimp only
    omega
  · exact (by decide : (0 : Int).natAbs < 1440)
  · rw [minuteNumber_wholeMillis, minuteNumber, TimestampParts.minuteNumber, Date.toDay_ofDay]
    dsimp only
    omega

end Instant

end EventQuery
