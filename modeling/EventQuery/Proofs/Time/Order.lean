import EventQuery.Proofs.Service.Calls
import EventQuery.Proofs.Slice.Bounds
import EventQuery.Proofs.Span.Lengths
import EventQuery.Proofs.Time.Reading
import Mathlib.Data.String.Basic

/-!
The order of instants, and of their texts.

Instants are compared as counts of seconds and nanoseconds, their texts character by
character. Both are the order of the minute, the second and the fraction, for the texts up to
the millisecond, since the columns of a text are as wide in all years up to 9999.

* `Instant.le_iff_places`, `Instant.isoRow_lt_iff`: both orders by the places in time.
* `Instant.isoText_le_iff`: so texts are in the order of the whole milliseconds.
* `Client.WritesBounds`: the requests of a client in which two instants are bounds.
* `instant_texts_read_back_in_order`: what is read from a timestamp is written so that it is
  read back to the millisecond, alike for all timestamps of the instant, and in its order.
-/

namespace EventQuery

namespace Instant

variable {t u : Instant}

/-! ### Order -/

lemma day_lt_iff : t.day < u.day ↔ (Date.ofDay t.day).IsBefore (Date.ofDay u.day) := by
  rw [← Date.toDay_lt_iff (Date.isValid_ofDay _) (Date.isValid_ofDay _), Date.toDay_ofDay,
    Date.toDay_ofDay]

lemma day_eq_iff : t.day = u.day ↔ Date.ofDay t.day = Date.ofDay u.day := by
  refine ⟨fun h => h ▸ rfl, fun h => ?_⟩
  rw [← Date.toDay_ofDay t.day, h, Date.toDay_ofDay]

/-- Instants are in the order of their minutes, then of their seconds, then of their
nanoseconds. -/
lemma le_iff_places : t.le u = true ↔ t.minuteNumber < u.minuteNumber ∨
    t.minuteNumber = u.minuteNumber ∧ (t.clockSecond < u.clockSecond ∨
      t.clockSecond = u.clockSecond ∧ t.fraction ≤ u.fraction) := by
  have htsecond := t.second_lt
  have husecond := u.second_lt
  have htleap := t.leap
  have huleap := u.leap
  rw [le_iff]
  simp only [minuteNumber, clockSecond, fraction]
  split_ifs <;> omega

/-- Rows of instants are in the order of the minutes, then of the seconds, then of the
milliseconds. -/
lemma isoRow_lt_iff (ht : 0 ≤ t.year) (hu : 0 ≤ u.year) :
    t.isoRow < u.isoRow ↔ t.minuteNumber < u.minuteNumber ∨
      t.minuteNumber = u.minuteNumber ∧ (t.clockSecond < u.clockSecond ∨
        t.clockSecond = u.clockSecond ∧ t.fraction / 1000000 < u.fraction / 1000000) := by
  have hdates : t.isoRow < u.isoRow ↔ t.day < u.day ∨ t.day = u.day ∧
      [t.second / 3600, t.second / 60 % 60, t.clockSecond, t.fraction / 1000000]
        < [u.second / 3600, u.second / 60 % 60, u.clockSecond, u.fraction / 1000000] := by
    rw [year] at ht hu
    have hyear : (Date.ofDay t.day).year.toNat < (Date.ofDay u.day).year.toNat ↔
        (Date.ofDay t.day).year < (Date.ofDay u.day).year := by omega
    have hsame : (Date.ofDay t.day).year.toNat = (Date.ofDay u.day).year.toNat ↔
        (Date.ofDay t.day).year = (Date.ofDay u.day).year := by omega
    rw [isoRow, isoRow, List.cons_lt_cons_iff, List.cons_lt_cons_iff, List.cons_lt_cons_iff, hyear,
      hsame, day_lt_iff, day_eq_iff, Date.IsBefore, Date.eq_iff]
    simp only [and_or_left, and_assoc, or_assoc]
  have htsecond := t.second_lt
  have husecond := u.second_lt
  rw [hdates, List.cons_lt_cons_iff, List.cons_lt_cons_iff, List.cons_lt_cons_iff,
    List.cons_lt_cons_iff, minuteNumber, minuteNumber]
  simp only [List.lt_irrefl, and_false, or_false]
  omega

/-! ### Texts -/

/-- Instants are written in the order of their whole milliseconds. -/
lemma isoText_le_iff (ht : 0 ≤ t.year ∧ t.year ≤ 9999) (hu : 0 ≤ u.year ∧ u.year ≤ 9999) :
    t.isoText ≤ u.isoText ↔ t.wholeMillis.le u.wholeMillis = true := by
  have hrows : u.isoText < t.isoText ↔ u.isoRow < t.isoRow := by
    rw [String.lt_iff_toList_lt, isoText_toList hu, isoText_toList ht,
      (isoRow_fits hu.2).rowText_lt_iff (isoRow_fits ht.2)]
  rw [← String.not_lt, hrows, isoRow_lt_iff hu.1 ht.1, le_iff_places, minuteNumber_wholeMillis,
    minuteNumber_wholeMillis, clockSecond_wholeMillis, clockSecond_wholeMillis,
    fraction_wholeMillis, fraction_wholeMillis]
  omega

/-- What lies earlier does so in whole milliseconds. -/
lemma wholeMillis_le (h : t.le u = true) : t.wholeMillis.le u.wholeMillis = true := by
  rw [le_iff_places] at h ⊢
  rw [minuteNumber_wholeMillis, minuteNumber_wholeMillis, clockSecond_wholeMillis,
    clockSecond_wholeMillis, fraction_wholeMillis, fraction_wholeMillis]
  omega

/-- The time of day with milliseconds has the second of the minute and the whole milliseconds. -/
lemma clockText_eq (t : Instant) : clockText .millis t.second t.nanos
    = paddedDigits 2 (t.second / 3600) ++ ':' :: paddedDigits 2 (t.second / 60 % 60) ++
      ':' :: paddedDigits 2 t.clockSecond ++ '.' :: paddedDigits 3 (t.fraction / 1000000) := rfl

/-- The text of an instant is that of its whole milliseconds. -/
lemma isoText_wholeMillis (t : Instant) : t.wholeMillis.isoText = t.isoText := by
  have hclock : clockText .millis t.wholeMillis.second t.wholeMillis.nanos
      = clockText .millis t.second t.nanos := by
    rw [clockText_eq, clockText_eq, clockSecond_wholeMillis, fraction_wholeMillis,
      Nat.mul_div_cancel _ (by decide)]
    rfl
  rw [isoText, isoText, civilText, civilText, hclock]
  rfl

/-- Instants are written alike exactly if they have the same whole milliseconds. -/
lemma isoText_inj (ht : 0 ≤ t.year ∧ t.year ≤ 9999) (hu : 0 ≤ u.year ∧ u.year ≤ 9999) :
    t.isoText = u.isoText ↔ t.wholeMillis = u.wholeMillis := by
  refine ⟨fun h => ?_, fun h => ?_⟩
  · have hread := read?_isoText ht
    rw [h, read?_isoText hu, Option.some.injEq, Timestamp.mk.injEq] at hread
    exact hread.1.symm
  · rw [← isoText_wholeMillis, h, isoText_wholeMillis]

end Instant

/-! ### Timestamps that are read -/

/-- A timestamp is read as the instant at the place that its parts name. -/
lemma exists_parts_of_readTimestamp {text : String} {t : Instant} (h : readTimestamp text = .ok t) :
    ∃ p, TimestampParts.ofText? text = some p ∧ t.minuteNumber = p.minuteNumber ∧
      t.clockSecond = p.second ∧ t.fraction = p.nanos := by
  rw [readTimestamp, Timestamp.read?_eq] at h
  split at h
  · rename_i stamp hstamp
    cases h
    obtain ⟨p, hp, hresolve⟩ := Option.bind_eq_some_iff.mp hstamp
    obtain ⟨-, -, hplace⟩ :=
      (TimestampParts.resolve?_eq_some_iff (TimestampParts.nanos_lt_of_ofText? hp)).mp hresolve
    exact ⟨p, hp, hplace⟩
  · cases h

lemma readTimestamp_isoText {t : Instant} (h : 0 ≤ t.year ∧ t.year ≤ 9999) :
    readTimestamp t.isoText = .ok t.wholeMillis := by
  rw [readTimestamp, Instant.read?_isoText h]

/-! ### Bounds in requests -/

/-- The requests of a client between two instants have their texts as bounds: in the path of a
range, in the query of the statistics of a field, and in the cursor of a slice. -/
structure Client.WritesBounds (c : Client) (n : Network) (start stop : Instant) : Prop where
  range : ∀ stream, (c.range stream start stop).sent n
    = [c.getRequest ["streams", stream, "start", start.isoText, "end", stop.isoText]]
  stats : ∀ stream field, ∃ r, (c.stats stream field (some start) (some stop)).sent n = [r] ∧
    r.url = (c.resource ["streams", stream, "fields", field, "stats"]).addQuery
      [("start", start.isoText), ("end", stop.isoText)]
  slice : ∀ h : Handle, h.client = c → ∀ cursor, ∃ later, (h.slice cursor start stop).sent n
    = c.eventRequest (cursorQuery cursor ++ "+" ++ start.isoText ++ "+" ++ stop.isoText) :: later

lemma Client.writesBounds {c : Client} {n : Network} (hn : n.Delivers c) (start stop : Instant) :
    c.WritesBounds n start stop where
  range stream := Action.sent_ask hn (c.scheme_request _ _ _) _
  stats stream field :=
    ⟨_, Action.sent_ask hn (ClientCall.scheme_statsRequest c stream field _ _) _, rfl⟩
  slice h hc cursor := by
    subst hc
    rcases hslice : h.slice cursor start stop n with ⟨result, n'⟩
    obtain ⟨_, ⟨later, rfl⟩, hreaches⟩ := Handle.slice_reaches hn hslice
    exact ⟨later.map h.client.eventRequest, Action.sent_of_reaches hslice hreaches⟩

/-- **Timestamps are written as they are read, and in their order.** An instant that is read is
written so that it is read again to the millisecond, and written alike then. Two timestamps are of
one instant if they have the same minute of universal time, second and nanoseconds, and have one
text if these are the same up to the millisecond. The texts are in the order of the instants, and
they are the bounds in the requests of a client. -/
theorem instant_texts_read_back_in_order {text other : String} {t u : Instant}
    (ht : readTimestamp text = .ok t) (hu : readTimestamp other = .ok u)
    (htyear : 0 ≤ t.year ∧ t.year ≤ 9999) (huyear : 0 ≤ u.year ∧ u.year ≤ 9999) :
    (readTimestamp t.isoText = .ok t.wholeMillis ∧ t.wholeMillis.isoText = t.isoText) ∧
    (∃ p q, TimestampParts.ofText? text = some p ∧ TimestampParts.ofText? other = some q ∧
      (t = u ↔ p.minuteNumber = q.minuteNumber ∧ p.second = q.second ∧ p.nanos = q.nanos) ∧
      (t.isoText = u.isoText ↔ p.minuteNumber = q.minuteNumber ∧ p.second = q.second ∧
        p.nanos / 1000000 = q.nanos / 1000000)) ∧
    (t.isoText ≤ u.isoText ↔ t.wholeMillis.le u.wholeMillis = true) ∧
    (t.le u = true → t.isoText ≤ u.isoText) ∧
    ∀ {c : Client} {n : Network}, n.Delivers c → c.WritesBounds n t u := by
  have horder := Instant.isoText_le_iff htyear huyear
  refine ⟨⟨readTimestamp_isoText htyear, t.isoText_wholeMillis⟩, ?_, horder,
    fun h => horder.mpr (Instant.wholeMillis_le h), fun hn => Client.writesBounds hn t u⟩
  obtain ⟨p, hp, hpminute, hpsecond, hpnanos⟩ := exists_parts_of_readTimestamp ht
  obtain ⟨q, hq, hqminute, hqsecond, hqnanos⟩ := exists_parts_of_readTimestamp hu
  refine ⟨p, q, hp, hq, ?_, ?_⟩
  · rw [Instant.eq_iff, hpminute, hpsecond, hpnanos, hqminute, hqsecond, hqnanos]
  · rw [Instant.isoText_inj htyear huyear, Instant.eq_iff, Instant.minuteNumber_wholeMillis,
      Instant.minuteNumber_wholeMillis, Instant.clockSecond_wholeMillis,
      Instant.clockSecond_wholeMillis, Instant.fraction_wholeMillis, Instant.fraction_wholeMillis,
      hpminute, hpsecond, hpnanos, hqminute, hqsecond, hqnanos]
    omega

/-- The leap second at the end of the year 2016, on an evening in the west and on the morning after
it in the east. -/
def leapSecondTexts : String × String :=
  ("2016-12-31 18:59:60.1234567891-05:00", "2017-01-01t05:59:60.123999+06:00")

theorem leapSecond_written_alike :
    ∃ t u, readTimestamp leapSecondTexts.1 = .ok t ∧ readTimestamp leapSecondTexts.2 = .ok u ∧
      (0 ≤ t.year ∧ t.year ≤ 9999) ∧ (0 ≤ u.year ∧ u.year ≤ 9999) ∧ t ≠ u ∧
      readTimestamp t.isoText = .ok t.wholeMillis ∧ t.isoText = u.isoText := by
  obtain ⟨t, u, ht, hu, htyear, huyear, hne, hle⟩ :
      ∃ t u, readTimestamp leapSecondTexts.1 = .ok t ∧ readTimestamp leapSecondTexts.2 = .ok u ∧
        (0 ≤ t.year ∧ t.year ≤ 9999) ∧ (0 ≤ u.year ∧ u.year ≤ 9999) ∧ t ≠ u ∧ t.le u = true :=
    ⟨_, _, rfl, rfl, by decide, by decide, fun h => absurd (congrArg Instant.nanos h) (by decide),
      by decide⟩
  obtain ⟨⟨hread, -⟩, ⟨p, q, hp, hq, -, halike⟩, -⟩ :=
    instant_texts_read_back_in_order ht hu htyear huyear
  refine ⟨t, u, ht, hu, htyear, huyear, hne, hread, halike.mpr ?_⟩
  cases hp
  cases hq
  decide

end EventQuery
