import EventQuery.Proofs.Double.Quotient
import EventQuery.Record.Span
import Mathlib.Algebra.BigOperators.Group.List.Basic
import Mathlib.Data.List.GetD
import Mathlib.Data.List.Sort

/-!
Statistics of spans.

The statistics of spans are the order statistics of the lengths of those that have both ends,
and nothing but the count looks at the others.

* `spanLengths`: the lengths of spans, of those that have one.
* `SpanStats.IsOrderStatisticsOf`: least, greatest and median of numbers, told without sorting
  them; `isOrderStatisticsOf_ofSorted`: that is what is found at the places of a sorted list.
* `SpanStats.ofSpans?_of_perm`: other spans with the same lengths, in any order, have the same
  statistics but for their count.
* `stats_are_order_statistics`: what the statistics of spans are.
-/

namespace EventQuery

/-! ### Lengths -/

/-- The lengths of spans, of those that have one. -/
def spanLengths (spans : List Span) : List Int := spans.filterMap Span.millis?

/-- Whether both ends of a span are known. -/
def Span.isClosed (s : Span) : Bool := s.start.isSome && s.stop.isSome

lemma Span.isSome_millis? (s : Span) : s.millis?.isSome = s.isClosed := by
  obtain ⟨cursor, _ | start, _ | stop⟩ := s <;> rfl

lemma Span.millis?_eq_none_iff {s : Span} :
    s.millis? = none ↔ s.start = none ∨ s.stop = none := by
  obtain ⟨cursor, _ | start, _ | stop⟩ := s <;> simp [millis?]

lemma mem_spanLengths {spans : List Span} {l : Int} :
    l ∈ spanLengths spans ↔ ∃ s ∈ spans, s.millis? = some l := List.mem_filterMap

/-- Open spans have no length. -/
lemma spanLengths_filter_isClosed (spans : List Span) :
    spanLengths (spans.filter Span.isClosed) = spanLengths spans := by
  rw [spanLengths, List.filterMap_filter]
  refine List.filterMap_congr fun s _ => ?_
  cases hclosed : s.isClosed with
  | true => rfl
  | false =>
      rw [← s.isSome_millis?, Option.isSome_eq_false_iff, Option.isNone_iff_eq_none] at hclosed
      exact hclosed.symm

/-- The lengths in ascending order. -/
def sortedLengths (spans : List Span) : List Int :=
  (spanLengths spans).mergeSort fun a b => decide (a ≤ b)

lemma sortedLengths_perm (spans : List Span) :
    (sortedLengths spans).Perm (spanLengths spans) := List.mergeSort_perm _ _

lemma pairwise_sortedLengths (spans : List Span) :
    (sortedLengths spans).Pairwise (· ≤ ·) := List.pairwise_mergeSort' (· ≤ ·) _

/-- Lengths that are in ascending order stay as they are. -/
lemma sortedLengths_of_pairwise {spans : List Span}
    (h : (spanLengths spans).Pairwise (· ≤ ·)) : sortedLengths spans = spanLengths spans :=
  List.mergeSort_eq_self (· ≤ ·) h

/-- The order of the spans does not show in the order of their lengths. -/
lemma sortedLengths_congr {spans others : List Span}
    (h : (spanLengths others).Perm (spanLengths spans)) :
    sortedLengths others = sortedLengths spans :=
  List.Perm.eq_of_pairwise' (pairwise_sortedLengths others) (pairwise_sortedLengths spans)
    ((sortedLengths_perm others).trans (h.trans (sortedLengths_perm spans).symm))

/-! ### Order statistics -/

/-- Least, greatest and median of numbers: each of them is one of the numbers, and at most half of
the others lie on either side of the median, the upper of two middle ones. -/
structure SpanStats.IsOrderStatisticsOf (stats : SpanStats) (lengths : List Int) : Prop where
  least_mem : stats.least ∈ lengths
  least_le : ∀ l ∈ lengths, stats.least ≤ l
  greatest_mem : stats.greatest ∈ lengths
  le_greatest : ∀ l ∈ lengths, l ≤ stats.greatest
  median_mem : stats.median ∈ lengths
  below_median : lengths.countP (· < stats.median) ≤ lengths.length / 2
  above_median : lengths.countP (stats.median < ·) ≤ lengths.length - 1 - lengths.length / 2

section

variable {lengths : List Int} {i : Nat}

/-- In a sorted list no more than `i` numbers are less than the one at place `i`. -/
lemma countP_lt_getElem_le (h : lengths.Pairwise (· ≤ ·)) (hi : i < lengths.length) :
    lengths.countP (· < lengths[i]) ≤ i := by
  have hnone : (lengths.drop i).countP (· < lengths[i]) = 0 := by
    refine List.countP_eq_zero.mpr fun l hl => ?_
    obtain ⟨j, hj, rfl⟩ := List.mem_drop_iff_getElem.mp hl
    simpa using h.rel_get_of_le (a := ⟨i, hi⟩) (b := ⟨i + j, by omega⟩) (Nat.le_add_right i j)
  calc lengths.countP (· < lengths[i])
      = (lengths.take i ++ lengths.drop i).countP (· < lengths[i]) := by
        rw [List.take_append_drop]
    _ = (lengths.take i).countP (· < lengths[i]) := by
        rw [List.countP_append, hnone, Nat.add_zero]
    _ ≤ (lengths.take i).length := List.countP_le_length
    _ ≤ i := List.length_take_le i lengths

/-- In a sorted list only those behind place `i` can be greater than the number there. -/
lemma countP_getElem_lt_le (h : lengths.Pairwise (· ≤ ·)) (hi : i < lengths.length) :
    lengths.countP (lengths[i] < ·) ≤ lengths.length - 1 - i := by
  have hnone : (lengths.take (i + 1)).countP (lengths[i] < ·) = 0 := by
    refine List.countP_eq_zero.mpr fun l hl => ?_
    obtain ⟨j, hj, rfl⟩ := List.mem_take_iff_getElem.mp hl
    simpa using h.rel_get_of_le (a := ⟨j, by omega⟩) (b := ⟨i, hi⟩) (by simp; omega)
  calc lengths.countP (lengths[i] < ·)
      = (lengths.take (i + 1) ++ lengths.drop (i + 1)).countP (lengths[i] < ·) := by
        rw [List.take_append_drop]
    _ = (lengths.drop (i + 1)).countP (lengths[i] < ·) := by
        rw [List.countP_append, hnone, Nat.zero_add]
    _ ≤ (lengths.drop (i + 1)).length := List.countP_le_length
    _ = lengths.length - 1 - i := by
        rw [List.length_drop]
        omega

end

namespace SpanStats

/-- **The places of a sorted list** are its order statistics. -/
lemma isOrderStatisticsOf_ofSorted {least : Int} {rest : List Int}
    (h : (least :: rest).Pairwise (· ≤ ·)) (count : Nat) :
    (ofSorted count least rest).IsOrderStatisticsOf (least :: rest) := by
  have hmiddle : (least :: rest).length / 2 < (least :: rest).length := by
    rw [List.length_cons]
    omega
  have hmedian : (ofSorted count least rest).median
      = (least :: rest)[(least :: rest).length / 2] := List.getD_eq_getElem _ _ hmiddle
  have hgreatest : (ofSorted count least rest).greatest
      = (least :: rest).getLast (List.cons_ne_nil _ _) := rfl
  refine ⟨List.mem_cons_self, fun l hl => h.rel_head hl, ?_, ?_, ?_, ?_, ?_⟩
  · rw [hgreatest]
    exact List.getLast_mem _
  · intro l hl
    rw [hgreatest]
    exact h.rel_getLast hl
  · rw [hmedian]
    exact List.getElem_mem hmiddle
  · rw [hmedian]
    exact countP_lt_getElem_le h hmiddle
  · rw [hmedian]
    exact countP_getElem_lt_le h hmiddle

/-- The order of numbers does not matter to their order statistics. -/
lemma IsOrderStatisticsOf.of_perm {stats : SpanStats} {lengths others : List Int}
    (h : stats.IsOrderStatisticsOf lengths) (hperm : lengths.Perm others) :
    stats.IsOrderStatisticsOf others where
  least_mem := hperm.mem_iff.mp h.least_mem
  least_le l hl := h.least_le l (hperm.mem_iff.mpr hl)
  greatest_mem := hperm.mem_iff.mp h.greatest_mem
  le_greatest l hl := h.le_greatest l (hperm.mem_iff.mpr hl)
  median_mem := hperm.mem_iff.mp h.median_mem
  below_median := by
    rw [← hperm.countP_eq, ← hperm.length_eq]
    exact h.below_median
  above_median := by
    rw [← hperm.countP_eq, ← hperm.length_eq]
    exact h.above_median

/-! ### Statistics of spans -/

lemma ofSpans?_eq (spans : List Span) :
    ofSpans? spans = match sortedLengths spans with
      | [] => none
      | least :: rest => some (ofSorted spans.length least rest) := rfl

/-- Spans have statistics exactly if one of them has a length. -/
lemma ofSpans?_eq_none_iff {spans : List Span} :
    ofSpans? spans = none ↔ spanLengths spans = [] := by
  rw [ofSpans?_eq]
  have hperm := sortedLengths_perm spans
  cases hsorted : sortedLengths spans with
  | nil =>
      rw [hsorted] at hperm
      exact ⟨fun _ => hperm.nil_eq.symm, fun _ => rfl⟩
  | cons least rest =>
      rw [hsorted] at hperm
      refine ⟨(nomatch ·), fun h => ?_⟩
      rw [h] at hperm
      exact absurd hperm.eq_nil (List.cons_ne_nil _ _)

/-- The statistics of spans whose lengths are in ascending order already. -/
lemma ofSpans?_of_pairwise {spans : List Span} {least : Int} {rest : List Int}
    (hlengths : spanLengths spans = least :: rest) (h : (least :: rest).Pairwise (· ≤ ·)) :
    ofSpans? spans = some (ofSorted spans.length least rest) := by
  rw [ofSpans?_eq, sortedLengths_of_pairwise (by rwa [hlengths]), hlengths]

/-- The statistics of spans are those of their lengths. -/
lemma exists_of_ofSpans?_eq_some {spans : List Span} {stats : SpanStats}
    (h : ofSpans? spans = some stats) :
    stats.count = spans.length ∧ stats.IsOrderStatisticsOf (spanLengths spans) ∧
      stats.mean = quotient (totalMillis (spanLengths spans)) (spanLengths spans).length := by
  have hperm := sortedLengths_perm spans
  have hsorted := pairwise_sortedLengths spans
  rw [ofSpans?_eq] at h
  cases heq : sortedLengths spans with
  | nil =>
      rw [heq] at h
      cases h
  | cons least rest =>
      rw [heq] at h hperm hsorted
      cases h
      refine ⟨rfl, (isOrderStatisticsOf_ofSorted hsorted _).of_perm hperm, ?_⟩
      have htotal : totalMillis (least :: rest) = totalMillis (spanLengths spans) := by
        rw [totalMillis, totalMillis, hperm.foldr_eq]
      rw [ofSorted, htotal, hperm.length_eq]

/-- **Other spans with the same lengths**, in whatever order, have the same statistics but for
the count of all spans. -/
lemma ofSpans?_of_perm {spans others : List Span}
    (h : (spanLengths others).Perm (spanLengths spans)) :
    ofSpans? others = (ofSpans? spans).map fun stats => { stats with count := others.length } := by
  rw [ofSpans?_eq, ofSpans?_eq, sortedLengths_congr h]
  cases sortedLengths spans with
  | nil => rfl
  | cons least rest => rfl

end SpanStats

/-! ### Totals -/

/-- A total is exact if it fits 64 bits, and only then. -/
lemma totalMillis_eq_sum_iff {lengths : List Int} :
    totalMillis lengths = lengths.sum ↔ -2 ^ 63 ≤ lengths.sum ∧ lengths.sum < 2 ^ 63 := by
  have htotal : totalMillis lengths = Int.bmod lengths.sum 18446744073709551616 := rfl
  rw [htotal]
  generalize lengths.sum = n
  rw [Int.bmod]
  split <;> omega

lemma natAbs_sum_le (lengths : List Int) :
    lengths.sum.natAbs ≤ (lengths.map Int.natAbs).sum := by
  induction lengths with
  | nil => exact Nat.le_refl 0
  | cons l lengths ih =>
      rw [List.sum_cons, List.map_cons, List.sum_cons]
      omega

/-- The mean of lengths whose total fits 64 bits is the double quotient of their exact total and
their number. -/
lemma SpanStats.exists_mean {spans : List Span} {stats : SpanStats}
    (h : ofSpans? spans = some stats)
    (hfit : totalMillis (spanLengths spans) = (spanLengths spans).sum)
    (hcount : (spanLengths spans).length < 2 ^ 64) :
    ∃ mean, stats.mean = .finite mean ∧
      mean.IsQuotient (spanLengths spans).sum (spanLengths spans).length := by
  obtain ⟨-, hstats, hmean⟩ := exists_of_ofSpans?_eq_some h
  have hrange := totalMillis_eq_sum_iff.mp hfit
  have hpos : 0 < (spanLengths spans).length := List.length_pos_of_mem hstats.least_mem
  have htotal : (spanLengths spans).sum.natAbs ≤ 2 ^ 128 := by omega
  obtain ⟨x, y, mean, hx, hy, hquotient, hnear⟩ :=
    Double.exists_isQuotient htotal hpos (by omega)
  refine ⟨mean, ?_, hnear⟩
  rw [hmean, hfit, quotient, hx, hy]
  exact hquotient

/-- **The statistics of spans.** There are none exactly if no span has both ends. Otherwise all
spans are counted, least, greatest and median are the order statistics of the lengths of those
with both ends, and the mean is the double quotient of their exact total and their number. The
order of the spans does not matter, and open ones matter to the count only. -/
theorem stats_are_order_statistics (spans : List Span)
    (hfit : ((spanLengths spans).map Int.natAbs).sum < 2 ^ 63) :
    (SpanStats.ofSpans? spans = none ↔ ∀ s ∈ spans, s.start = none ∨ s.stop = none) ∧
    (∀ stats, SpanStats.ofSpans? spans = some stats →
      stats.count = spans.length ∧ stats.IsOrderStatisticsOf (spanLengths spans) ∧
      stats.least ≤ stats.median ∧ stats.median ≤ stats.greatest ∧
      stats.mean = SpanStats.quotient (spanLengths spans).sum (spanLengths spans).length ∧
      ((spanLengths spans).length < 2 ^ 64 → ∃ mean, stats.mean = .finite mean ∧
        mean.IsQuotient (spanLengths spans).sum (spanLengths spans).length)) ∧
    (∀ others : List Span, others.Perm spans →
      SpanStats.ofSpans? others = SpanStats.ofSpans? spans) ∧
    ∀ others : List Span, (others.filter Span.isClosed).Perm (spans.filter Span.isClosed) →
      SpanStats.ofSpans? others
        = (SpanStats.ofSpans? spans).map fun stats => { stats with count := others.length } := by
  have habs := natAbs_sum_le (spanLengths spans)
  have htotal : totalMillis (spanLengths spans) = (spanLengths spans).sum :=
    totalMillis_eq_sum_iff.mpr (by omega)
  refine ⟨?_, fun stats hstats => ?_, fun others hperm => ?_, fun others hperm => ?_⟩
  · rw [SpanStats.ofSpans?_eq_none_iff, spanLengths, List.filterMap_eq_nil_iff]
    simp only [Span.millis?_eq_none_iff]
  · obtain ⟨hcount, horder, hmean⟩ := SpanStats.exists_of_ofSpans?_eq_some hstats
    rw [htotal] at hmean
    exact ⟨hcount, horder, horder.least_le _ horder.median_mem,
      horder.le_greatest _ horder.median_mem, hmean, SpanStats.exists_mean hstats htotal⟩
  · rw [SpanStats.ofSpans?_of_perm (hperm.filterMap Span.millis?)]
    cases hstats : SpanStats.ofSpans? spans with
    | none => rfl
    | some stats =>
        rw [Option.map_some, hperm.length_eq, ← (SpanStats.exists_of_ofSpans?_eq_some hstats).1]
  · refine SpanStats.ofSpans?_of_perm ?_
    rw [← spanLengths_filter_isClosed others, ← spanLengths_filter_isClosed spans]
    exact hperm.filterMap Span.millis?

/-- Spans of the first seconds of the year 2017. Two are open, one ends before it starts, and two
are of one length. -/
def mixedSpans : List Span :=
  let second (n : Nat) : Option Instant := Instant.ofCivil? ⟨2017, 1, 1, 0, 0, n⟩
  [⟨"a", second 0, second 3⟩, ⟨"b", second 1, none⟩, ⟨"c", second 2, second 0⟩,
    ⟨"d", second 1, second 4⟩, ⟨"e", none, none⟩, ⟨"f", second 5, second 6⟩]

theorem mixedSpans_statistics :
    ((spanLengths mixedSpans).map Int.natAbs).sum < 2 ^ 63 ∧
      ∃ stats mean, SpanStats.ofSpans? mixedSpans = some stats ∧ stats.count = 6 ∧
        stats.least = -2000 ∧ stats.median = 3000 ∧ stats.greatest = 3000 ∧
        stats.mean = .finite mean ∧ mean.IsQuotient 5000 4 ∧
        SpanStats.ofSpans? mixedSpans.reverse = some stats := by
  have hlengths : spanLengths mixedSpans = [3000, -2000, 3000, 1000] := by decide
  have hfit : ((spanLengths mixedSpans).map Int.natAbs).sum < 2 ^ 63 := by
    rw [hlengths]
    decide
  obtain ⟨hnone, hsome, hperm, -⟩ := stats_are_order_statistics mixedSpans hfit
  have hreverse := hperm mixedSpans.reverse mixedSpans.reverse_perm
  cases hstats : SpanStats.ofSpans? mixedSpans with
  | none =>
      exact absurd (hnone.mp hstats _ List.mem_cons_self) (by decide)
  | some stats =>
      obtain ⟨hcount, horder, -, -, -, hmean⟩ := hsome stats hstats
      rw [hlengths] at horder hmean
      obtain ⟨mean, hmean, hquotient⟩ := hmean (by decide)
      obtain ⟨hleast, hleast_le, hgreatest, hle_greatest, hmedian, hbelow, habove⟩ := horder
      have hlow := hleast_le (-2000) (by decide)
      have hhigh := hle_greatest 3000 (by decide)
      simp only [List.mem_cons, List.not_mem_nil, or_false] at hleast hgreatest hmedian
      refine ⟨hfit, stats, mean, rfl, hcount, by omega, ?_, by omega, hmean, hquotient,
        hreverse.trans hstats⟩
      -- the two lesser lengths have too many above them
      rcases hmedian with h | h | h | h
      · exact h
      · rw [h] at habove
        exact absurd habove (by decide)
      · exact h
      · rw [h] at habove
        exact absurd habove (by decide)

end EventQuery
