import EventQuery.Proofs.Span.Lengths
import Mathlib.Algebra.Order.BigOperators.Group.List

/-!
Totals of lengths.

The calendar bounds the length of a span, but nothing bounds the number of spans. A total of
lengths is kept in 64 bits, which are enough for 557 spans over the whole calendar and not for
one more.

* `longestMillis`: the most milliseconds that the calendar has;
  `Instant.natAbs_millisSince_le`: no length exceeds it.
* `span_totals_exact`: which totals are exact, and what the mean is then.
* `calendarSpans_overflow`: spans whose lengths are positive, with a mean that is not.
-/

namespace EventQuery

/-! ### The longest span -/

/-- The milliseconds from the first instant of the calendar to the last one. -/
def longestMillis : Nat := 16544868105600999

namespace Instant

lemma nanosSince_le (t u : Instant) : t.nanosSince u ≤ 16544868105600999999999 := by
  have hday : minDay ≤ u.day ∧ t.day ≤ maxDay := ⟨u.day_ge, t.day_le⟩
  have ht := t.second_lt
  have htn := t.nanos_lt
  have huleap := u.leap
  rw [minDay, maxDay] at hday
  rw [nanosSince_eq, leapsSince]
  split_ifs <;> omega

/-- **No two instants are further apart** than the first and the last one. -/
lemma natAbs_millisSince_le (t u : Instant) : (t.millisSince u).natAbs ≤ longestMillis := by
  have hto := t.nanosSince_le u
  have hback := u.nanosSince_le t
  rw [nanosSince_swap] at hback
  have htrunc : (t.millisSince u).natAbs = (t.nanosSince u).natAbs / 1000000 :=
    Int.natAbs_tdiv _ _
  rw [htrunc, longestMillis]
  omega

end Instant

lemma natAbs_le_of_mem_spanLengths {spans : List Span} {l : Int} (h : l ∈ spanLengths spans) :
    l.natAbs ≤ longestMillis := by
  obtain ⟨⟨cursor, _ | start, _ | stop⟩, -, hl⟩ := mem_spanLengths.mp h
  · cases hl
  · cases hl
  · cases hl
  · rw [Span.millis?_eq_some rfl rfl, Option.some.injEq] at hl
    rw [← hl]
    exact stop.natAbs_millisSince_le start

/-! ### Totals -/

/-- The total of lengths grows with their number only. -/
lemma natAbs_sum_spanLengths_le (spans : List Span) :
    (spanLengths spans).sum.natAbs ≤ (spanLengths spans).length * longestMillis := by
  have hall : ∀ m ∈ (spanLengths spans).map Int.natAbs, m ≤ longestMillis := by
    intro m hm
    obtain ⟨l, hl, rfl⟩ := List.mem_map.mp hm
    exact natAbs_le_of_mem_spanLengths hl
  calc (spanLengths spans).sum.natAbs ≤ ((spanLengths spans).map Int.natAbs).sum :=
        natAbs_sum_le _
    _ ≤ ((spanLengths spans).map Int.natAbs).length • longestMillis :=
        List.sum_le_card_nsmul _ _ hall
    _ = (spanLengths spans).length * longestMillis := by
        rw [List.length_map]
        rfl

/-- **Exact totals.** The total of the lengths of spans is exact if it fits 64 bits, as that of 557
spans always does, and is off by a multiple of `2 ^ 64` otherwise. The mean is taken from the total
that is kept. If that is exact, the mean is the double quotient of the total and the number of
lengths, within a `2 ^ 51`th of the true mean and of its sign. -/
theorem span_totals_exact (spans : List Span) :
    (∀ l ∈ spanLengths spans, l.natAbs ≤ longestMillis) ∧
    ((spanLengths spans).length ≤ 557 →
      totalMillis (spanLengths spans) = (spanLengths spans).sum) ∧
    (totalMillis (spanLengths spans) = (spanLengths spans).sum ↔
      -2 ^ 63 ≤ (spanLengths spans).sum ∧ (spanLengths spans).sum < 2 ^ 63) ∧
    (2 ^ 64 : Int) ∣ totalMillis (spanLengths spans) - (spanLengths spans).sum ∧
    ∀ stats, SpanStats.ofSpans? spans = some stats →
      stats.mean
        = SpanStats.quotient (totalMillis (spanLengths spans)) (spanLengths spans).length ∧
      (totalMillis (spanLengths spans) = (spanLengths spans).sum →
        (spanLengths spans).length < 2 ^ 64 →
        ∃ mean, stats.mean = .finite mean ∧
          mean.IsQuotient (spanLengths spans).sum (spanLengths spans).length ∧
          (0 < mean.value ↔ 0 < (spanLengths spans).sum) ∧
          (mean.value < 0 ↔ (spanLengths spans).sum < 0)) := by
  have hbound := natAbs_sum_spanLengths_le spans
  refine ⟨fun l => natAbs_le_of_mem_spanLengths, fun hfew => ?_, totalMillis_eq_sum_iff, ?_,
    fun stats hstats => ?_⟩
  · have hmost : (spanLengths spans).length * longestMillis ≤ 557 * longestMillis :=
      Nat.mul_le_mul_right _ hfew
    rw [longestMillis] at hbound hmost
    exact totalMillis_eq_sum_iff.mpr (by omega)
  · exact Int.dvd_bmod_sub_self (m := 18446744073709551616)
  · obtain ⟨-, horder, hmean⟩ := SpanStats.exists_of_ofSpans?_eq_some hstats
    refine ⟨hmean, fun htotal hcount => ?_⟩
    obtain ⟨mean, hmean, hquotient⟩ := SpanStats.exists_mean hstats htotal hcount
    exact ⟨mean, hmean, hquotient,
      hquotient.sign_value (List.length_pos_of_mem horder.least_mem)⟩

/-- A span over the whole calendar. -/
def calendarSpan : String :=
  "\x7b\"cursor\":\"abc\",\"start\":\"-262143-01-01T00:00:00Z\"," ++
    "\"end\":\"+262142-12-31T23:59:59.999Z\"\x7d"

/-- The total of 557 spans over the whole calendar fits 64 bits. -/
theorem calendarSpans_total :
    ∃ s, spanOfText? calendarSpan = some s ∧ (spanLengths (List.replicate 557 s)).length ≤ 557 ∧
      totalMillis (spanLengths (List.replicate 557 s)) = 557 * 16544868105599999 := by
  obtain ⟨s, htext, hmillis⟩ :
      ∃ s, spanOfText? calendarSpan = some s ∧ s.millis? = some 16544868105599999 :=
    ⟨_, rfl, rfl⟩
  have hlengths : spanLengths (List.replicate 557 s) = List.replicate 557 16544868105599999 :=
    List.filterMap_replicate_of_some hmillis
  have hfew : (spanLengths (List.replicate 557 s)).length ≤ 557 := by
    rw [hlengths, List.length_replicate]
  obtain ⟨-, htotal, -⟩ := span_totals_exact (List.replicate 557 s)
  refine ⟨s, htext, hfew, (htotal hfew).trans ?_⟩
  rw [hlengths, List.sum_replicate]
  rfl

/-- The total of 558 spans over the whole calendar does not fit 64 bits, and their mean is
negative. -/
theorem calendarSpans_overflow :
    ∃ s stats mean, spanOfText? calendarSpan = some s ∧ s.millis? = some 16544868105599999 ∧
      (spanLengths (List.replicate 558 s)).sum = 9232036402924799442 ∧
      totalMillis (spanLengths (List.replicate 558 s)) = -9214707670784752174 ∧
      SpanStats.ofSpans? (List.replicate 558 s) = some stats ∧ stats.least = 16544868105599999 ∧
      stats.mean = .finite mean ∧ mean.value < 0 := by
  obtain ⟨s, htext, hmillis⟩ :
      ∃ s, spanOfText? calendarSpan = some s ∧ s.millis? = some 16544868105599999 :=
    ⟨_, rfl, rfl⟩
  have hlengths : spanLengths (List.replicate 558 s) = List.replicate 558 16544868105599999 :=
    List.filterMap_replicate_of_some hmillis
  have hcount : (spanLengths (List.replicate 558 s)).length = 558 := by
    rw [hlengths, List.length_replicate]
  have hsum : (spanLengths (List.replicate 558 s)).sum = 9232036402924799442 := by
    rw [hlengths, List.sum_replicate]
    rfl
  have htotal : totalMillis (spanLengths (List.replicate 558 s)) = -9214707670784752174 := by
    have hbmod : totalMillis (spanLengths (List.replicate 558 s))
        = Int.bmod (spanLengths (List.replicate 558 s)).sum 18446744073709551616 := rfl
    rw [hbmod, hsum]
    rfl
  have hsorted : (List.replicate 558 (16544868105599999 : Int)).Pairwise (· ≤ ·) :=
    List.pairwise_replicate_of_refl
  have hstats := SpanStats.ofSpans?_of_pairwise hlengths hsorted
  obtain ⟨-, -, hmean⟩ := SpanStats.exists_of_ofSpans?_eq_some hstats
  have hkept : (-9214707670784752174 : Int).natAbs ≤ 2 ^ 128 := by decide
  have hmany : 558 ≤ 2 ^ 128 := by decide
  obtain ⟨x, y, mean, hx, hy, hquotient, hnear⟩ :=
    Double.exists_isQuotient hkept (by decide) hmany
  rw [htotal, hcount, SpanStats.quotient, hx, hy] at hmean
  exact ⟨s, _, mean, htext, hmillis, hsum, htotal, hstats, rfl, hmean.trans hquotient,
    hnear.value_neg (by decide) (by decide)⟩

end EventQuery
