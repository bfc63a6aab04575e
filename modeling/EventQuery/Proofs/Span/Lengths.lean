import EventQuery.Proofs.Slice.Bounds
import EventQuery.Proofs.Span.Statistics

/-!
The sign of the length of a span.

The time between two instants is taken from their days and their times of day, and a leap second
is counted only if it is at the end with the earlier time of day. From the leap second at the end
of a day to the next morning it is left out, so that the first second of that morning may seem to
lie before it.

* `Instant.millisSince_swap`: the time back is the time there, with the other sign.
* `Instant.Overtakes`: an instant of the first second of a day that seems to lie before one of
  the leap second that ends the day before; `Instant.millisSince_neg_iff`: no other instant seems
  to lie before an earlier one.
* `span_length_sign`: the signs of the lengths of spans, and of the least one.
-/

namespace EventQuery

namespace Instant

variable {t u : Instant}

lemma le_iff : t.le u = true ↔
    t.day < u.day ∨ t.day = u.day ∧
      (t.second < u.second ∨ t.second = u.second ∧ t.nanos ≤ u.nanos) := by
  simp [le]

/-- The leap seconds that are counted from `u` to `t`. -/
def leapsSince (t u : Instant) : Int :=
  if u.second < t.second then (if 1000000000 ≤ u.nanos then 1 else 0)
  else if t.second < u.second then (if 1000000000 ≤ t.nanos then -1 else 0)
  else 0

lemma nanosSince_eq (t u : Instant) :
    t.nanosSince u
      = ((t.day - u.day) * 86400 + t.second - u.second + t.leapsSince u) * 1000000000
        + t.nanos - u.nanos := by
  simp only [nanosSince, leapsSince, inLeapSecond, decide_eq_true_eq]

/-- The time back is the time there, with the other sign. -/
lemma nanosSince_swap (t u : Instant) : u.nanosSince t = -t.nanosSince u := by
  have hleaps : u.leapsSince t = -t.leapsSince u := by
    rw [leapsSince, leapsSince]
    split_ifs <;> omega
  rw [nanosSince_eq, nanosSince_eq, hleaps]
  omega

lemma millisSince_swap (t u : Instant) : u.millisSince t = -t.millisSince u := by
  rw [millisSince, millisSince, nanosSince_swap, Int.neg_tdiv]

/-- An instant of the first second of a day, which lies a millisecond or more earlier in its
second than `t` lies in the leap second at the end of the day before. -/
structure Overtakes (u t : Instant) : Prop where
  next_day : u.day = t.day + 1
  first_second : u.second = 0
  last_second : t.second = 86399
  earlier : u.nanos + 1000000 ≤ t.nanos - 1000000000

/-- Truncation toward zero gives a negative number of milliseconds from the first full one on. -/
lemma tdiv_neg_iff {n : Int} : n.tdiv 1000000 < 0 ↔ n ≤ -1000000 := by
  rcases Int.le_total 0 n with h | h
  · rw [Int.tdiv_eq_ediv_of_nonneg h]
    omega
  · obtain ⟨m, rfl⟩ : ∃ m, n = -m := ⟨-n, by omega⟩
    rw [Int.neg_tdiv, Int.tdiv_eq_ediv_of_nonneg (by omega)]
    omega

/-- **A later instant seems to lie before an earlier one** only over a leap second at midnight. -/
lemma millisSince_neg_iff (h : t.le u = true) : u.millisSince t < 0 ↔ u.Overtakes t := by
  have hu := u.second_lt
  have ht := t.second_lt
  have hun := u.nanos_lt
  have htn := t.nanos_lt
  have huleap := u.leap
  have htleap := t.leap
  rw [millisSince, tdiv_neg_iff, nanosSince_eq, leapsSince]
  constructor
  · intro hneg
    obtain hday | ⟨hday, hsecond | ⟨hsecond, hnanos⟩⟩ := le_iff.mp h
    · -- only the last second of a day and the first one of the next are as near as one second
      have hplaces : u.day = t.day + 1 ∧ u.second = 0 ∧ t.second = 86399 := by
        split_ifs at hneg <;> omega
      obtain ⟨hnext, hfirst, hlast⟩ := hplaces
      refine ⟨hnext, hfirst, hlast, ?_⟩
      split_ifs at hneg <;> omega
    · split_ifs at hneg <;> omega
    · split_ifs at hneg <;> omega
  · rintro ⟨hnext, hfirst, hlast, hearlier⟩
    split_ifs <;> omega

end Instant

/-! ### Lengths of spans -/

namespace Span

/-- A span with its ends exchanged. -/
def swap (s : Span) : Span := ⟨s.cursor, s.stop, s.start⟩

/-- A span that does not end before it starts, if it has both ends. -/
def IsOrdered (s : Span) : Prop :=
  ∀ start stop, s.start = some start → s.stop = some stop → start.le stop = true

/-- A span from the leap second at the end of a day to the first second of the next day that
seems to end before it starts. -/
def IsOvertaken (s : Span) : Prop :=
  ∃ start stop, s.start = some start ∧ s.stop = some stop ∧ stop.Overtakes start

variable {s : Span} {start stop : Instant}

lemma millis?_eq_some (hstart : s.start = some start) (hstop : s.stop = some stop) :
    s.millis? = some (stop.millisSince start) := by
  rw [millis?, hstart, hstop]

lemma isOrdered_iff (hstart : s.start = some start) (hstop : s.stop = some stop) :
    s.IsOrdered ↔ start.le stop = true := by
  simp [IsOrdered, hstart, hstop]

lemma isOvertaken_iff (hstart : s.start = some start) (hstop : s.stop = some stop) :
    s.IsOvertaken ↔ stop.Overtakes start := by
  simp [IsOvertaken, hstart, hstop]

/-- The length of an ordered span is negative exactly if the span is overtaken. -/
lemma IsOrdered.neg_iff (h : s.IsOrdered) {l : Int} (hl : s.millis? = some l) :
    l < 0 ↔ s.IsOvertaken := by
  obtain ⟨cursor, _ | start, _ | stop⟩ := s
  · cases hl
  · cases hl
  · cases hl
  · rw [millis?_eq_some rfl rfl, Option.some.injEq] at hl
    rw [← hl, Instant.millisSince_neg_iff (h start stop rfl rfl), isOvertaken_iff rfl rfl]

end Span

/-- **The signs of lengths.** A span with both ends has a length, and with its ends exchanged it
has the same length with the other sign. If the span does not end before it starts, its length is
not negative, except from the leap second at the end of a day to the first second of the next day.
So the least length of spans none of which ends before it starts is not negative exactly if no span
of this kind is among them. -/
theorem span_length_sign (spans : List Span) :
    (∀ s ∈ spans, ∀ start stop, s.start = some start → s.stop = some stop →
      ∃ l, s.millis? = some l ∧ s.swap.millis? = some (-l) ∧
        (start.le stop = true → (0 ≤ l ↔ ¬ stop.Overtakes start))) ∧
    ∀ stats, SpanStats.ofSpans? spans = some stats → (∀ s ∈ spans, s.IsOrdered) →
      (0 ≤ stats.least ↔ ∀ s ∈ spans, ¬ s.IsOvertaken) := by
  refine ⟨fun s _ start stop hstart hstop => ?_, fun stats hstats hordered => ?_⟩
  · refine ⟨_, Span.millis?_eq_some hstart hstop, ?_, fun hle => ?_⟩
    · rw [← Instant.millisSince_swap]
      exact Span.millis?_eq_some hstop hstart
    · rw [← Instant.millisSince_neg_iff hle, not_lt]
  · obtain ⟨-, horder, -⟩ := SpanStats.exists_of_ofSpans?_eq_some hstats
    constructor
    · intro hleast s hs hovertaken
      have ⟨start, stop, hstart, hstop, _⟩ := hovertaken
      have hlength := Span.millis?_eq_some hstart hstop
      have hneg := ((hordered s hs).neg_iff hlength).mpr hovertaken
      have hle := horder.least_le _ (mem_spanLengths.mpr ⟨s, hs, hlength⟩)
      exact absurd hleast (by omega)
    · intro hnone
      obtain ⟨s, hs, hlength⟩ := mem_spanLengths.mp horder.least_mem
      have hneg := (hordered s hs).neg_iff hlength
      exact not_lt.mp fun hlt => hnone s hs (hneg.mp hlt)

/-- A span from the leap second at the end of the year 2016 to the first second of the next year,
with the digits that follow the points of both. -/
def midnightSpan (start stop : String) : String :=
  "\x7b\"cursor\":\"abc\",\"start\":\"2016-12-31T23:59:60." ++ start ++
    "Z\",\"end\":\"2017-01-01T00:00:00." ++ stop ++ "Z\"\x7d"

theorem midnightSpan_signs :
    ∃ s start stop, spanOfText? (midnightSpan "250" "500") = some s ∧ s.start = some start ∧
      s.stop = some stop ∧ start.le stop = true ∧ ¬ stop.Overtakes start ∧
      (∃ l, s.millis? = some l ∧ 0 ≤ l) ∧
      ∃ stats, SpanStats.ofSpans? [s] = some stats ∧ 0 ≤ stats.least := by
  obtain ⟨s, start, stop, htext, hstart, hstop, hle, hnot⟩ :
      ∃ s start stop, spanOfText? (midnightSpan "250" "500") = some s ∧ s.start = some start ∧
        s.stop = some stop ∧ start.le stop = true ∧ ¬ stop.Overtakes start :=
    ⟨_, _, _, rfl, rfl, rfl, by decide, fun h => absurd h.earlier (by decide)⟩
  obtain ⟨hsign, hleast⟩ := span_length_sign [s]
  obtain ⟨l, hl, -, hnonneg⟩ := hsign s List.mem_cons_self start stop hstart hstop
  have hlengths : spanLengths [s] = [l] := List.filterMap_cons_some hl
  have hstats := SpanStats.ofSpans?_of_pairwise hlengths (List.pairwise_singleton _ _)
  refine ⟨s, start, stop, htext, hstart, hstop, hle, hnot, ⟨l, hl, (hnonneg hle).mpr hnot⟩,
    _, hstats, (hleast _ hstats ?_).mpr ?_⟩
  · simpa [Span.isOrdered_iff hstart hstop] using hle
  · simpa [Span.isOvertaken_iff hstart hstop] using hnot

/-- A span from the middle of a leap second to midnight ends after it starts, and still has a
negative length. -/
theorem midnightSpan_negative :
    ∃ s start stop, spanOfText? (midnightSpan "500" "000") = some s ∧ s.start = some start ∧
      s.stop = some stop ∧ start.le stop = true ∧ s.millis? = some (-500) ∧
      ∃ stats, SpanStats.ofSpans? [s] = some stats ∧ stats.least = -500 :=
  ⟨_, _, _, rfl, rfl, rfl, by decide, rfl, _,
    SpanStats.ofSpans?_of_pairwise rfl (List.pairwise_singleton _ _), rfl⟩

end EventQuery
