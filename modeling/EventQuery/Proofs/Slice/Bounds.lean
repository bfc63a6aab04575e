import EventQuery.Proofs.Slice.Requests
import EventQuery.Proofs.Text.Digits
import EventQuery.Proofs.Text.Parts
import Mathlib.Data.List.TakeWhile

/-!
The bounds of a slice, and the cursor that names them.

A cursor to the events between two instants is the name of a query and the two bounds, with
a plus sign between them. The text of an instant has a plus sign only in front of a year of
more than four digits, so that is where the parts of a cursor cannot be told. An end that a
span lacks is stood in for by a fixed instant, which is no bound for what lies beyond it.

* `cursorQuery`: the query that a cursor belongs to, the first of its parts.
* `partsAt_sliceCursor`: the parts of a cursor with bounds, whatever the bounds are.
* `slice_cursor_parts`: they are the three that were put together exactly if no bound lies
  after the year 9999, and bounds take the place of those already there.
* `Span.LiesWithin`: two instants in order, around all ends of a span.
* `open_span_within_window`: when the events of an open span are asked for within such bounds.
-/

namespace EventQuery

/-! ### The text of an instant -/

/-- The year of an instant in universal time. -/
def Instant.year (t : Instant) : Int := (Date.ofDay t.day).year

/-- A character that is no digit is not among digits. -/
lemma AreDigits.not_mem {cs : List Char} (h : AreDigits cs) {c : Char} (hc : c.isDigit = false) :
    c ∉ cs := by
  intro hmem
  rw [h c hmem] at hc
  cases hc

lemma plus_not_mem_paddedDigits (width n : Nat) : '+' ∉ paddedDigits width n :=
  (areDigits_paddedDigits width n).not_mem rfl

/-- After the year there is no plus sign in the text of an instant. -/
lemma Instant.exists_isoText (t : Instant) :
    ∃ rest, '+' ∉ rest ∧ t.isoText.toList = yearText t.year ++ rest := by
  have hclock : '+' ∉ clockText .millis t.second t.nanos := by
    simp [clockText, Fraction.text, plus_not_mem_paddedDigits]
  refine ⟨'-' :: (paddedDigits 2 (Date.ofDay t.day).month ++
    '-' :: (paddedDigits 2 (Date.ofDay t.day).day ++
      'T' :: (clockText .millis t.second t.nanos ++ ['Z']))), ?_, ?_⟩
  · simp [plus_not_mem_paddedDigits, hclock]
  · simp [isoText, civilText, Date.text, Instant.year]

lemma plus_not_mem_yearText {year : Int} (h : year ≤ 9999) : '+' ∉ yearText year := by
  rw [yearText]
  split
  · exact plus_not_mem_paddedDigits _ _
  · have hneg : year < 0 := by omega
    simp [hneg, plus_not_mem_paddedDigits]

lemma yearText_of_gt {year : Int} (h : 9999 < year) :
    yearText year = '+' :: paddedDigits 4 year.natAbs := by
  rw [yearText, if_neg (by omega), if_neg (by omega)]

/-! ### The parts of a cursor -/

/-- The query that a cursor belongs to: what stands before its first plus sign. -/
def cursorQuery (cursor : String) : String :=
  String.ofList (cursor.toList.takeWhile (· != '+'))

lemma plus_not_mem_cursorQuery (cursor : String) : '+' ∉ (cursorQuery cursor).toList := by
  rw [cursorQuery, String.toList_ofList]
  intro hmem
  simpa using List.mem_takeWhile_imp hmem

/-- A cursor is a query alone, or a query with something behind a plus sign. -/
lemma eq_cursorQuery_or (cursor : String) :
    cursor = cursorQuery cursor ∨
      ∃ rest : String, cursor.toList = (cursorQuery cursor).toList ++ '+' :: rest.toList := by
  have hsplit := List.takeWhile_append_dropWhile (p := (· != '+')) (l := cursor.toList)
  cases hback : cursor.toList.dropWhile (· != '+') with
  | nil =>
      rw [hback, List.append_nil] at hsplit
      exact Or.inl (by rw [cursorQuery, hsplit, String.ofList_toList])
  | cons c back =>
      have hc : c = '+' := by
        have hhead := List.head?_dropWhile_not (· != '+') cursor.toList
        rw [hback] at hhead
        simpa using hhead
      rw [hback, hc] at hsplit
      refine Or.inr ⟨String.ofList back, ?_⟩
      rw [cursorQuery, String.toList_ofList, String.toList_ofList, hsplit]

/-- The first part of a cursor is the query that it belongs to. -/
lemma exists_partsAt_cursor (cursor : String) :
    ∃ rest, partsAt '+' cursor = cursorQuery cursor :: rest := by
  have hquery := partsAt_of_not_mem (plus_not_mem_cursorQuery cursor)
  obtain h | ⟨rest, h⟩ := eq_cursorQuery_or cursor
  · exact ⟨[], (congrArg (partsAt '+') h).trans hquery⟩
  · refine ⟨partsAt '+' rest, ?_⟩
    rw [partsAt_append h, hquery, List.singleton_append]

lemma sliceCursor_eq (cursor : String) (start stop : Instant) :
    sliceCursor cursor start stop
      = cursorQuery cursor ++ "+" ++ start.isoText ++ "+" ++ stop.isoText := rfl

/-- The parts of a cursor with bounds are the query, the parts of the one bound and those of
the other. -/
lemma partsAt_sliceCursor (cursor : String) (start stop : Instant) :
    partsAt '+' (sliceCursor cursor start stop)
      = cursorQuery cursor :: (partsAt '+' start.isoText ++ partsAt '+' stop.isoText) := by
  have hstop : partsAt '+' (sliceCursor cursor start stop)
      = partsAt '+' (cursorQuery cursor ++ "+" ++ start.isoText) ++ partsAt '+' stop.isoText :=
    partsAt_append (by simp [sliceCursor_eq, String.toList_append])
  have hstart : partsAt '+' (cursorQuery cursor ++ "+" ++ start.isoText)
      = partsAt '+' (cursorQuery cursor) ++ partsAt '+' start.isoText :=
    partsAt_append (by simp [String.toList_append])
  rw [hstop, hstart, partsAt_of_not_mem (plus_not_mem_cursorQuery cursor), List.append_assoc,
    List.singleton_append]

/-- A cursor with bounds belongs to the query that it had before. -/
lemma cursorQuery_sliceCursor (cursor : String) (start stop : Instant) :
    cursorQuery (sliceCursor cursor start stop) = cursorQuery cursor := by
  obtain ⟨rest, hrest⟩ := exists_partsAt_cursor (sliceCursor cursor start stop)
  rw [partsAt_sliceCursor] at hrest
  exact (List.cons.inj hrest).1.symm

/-- The text of an instant is one part up to the year 9999, and two from then on. -/
lemma partsAt_isoText (t : Instant) :
    (t.year ≤ 9999 ∧ partsAt '+' t.isoText = [t.isoText]) ∨
      (9999 < t.year ∧ ∃ part, partsAt '+' t.isoText = ["", part]) := by
  obtain ⟨rest, hrest, htext⟩ := t.exists_isoText
  by_cases hyear : t.year ≤ 9999
  · refine Or.inl ⟨hyear, partsAt_of_not_mem ?_⟩
    rw [htext, List.mem_append, not_or]
    exact ⟨plus_not_mem_yearText hyear, hrest⟩
  · have hgt : 9999 < t.year := Int.not_le.mp hyear
    have hunsigned : '+' ∉ (String.ofList (paddedDigits 4 t.year.natAbs ++ rest)).toList := by
      rw [String.toList_ofList, List.mem_append, not_or]
      exact ⟨plus_not_mem_paddedDigits _ _, hrest⟩
    have htext' : t.isoText.toList = "".toList
        ++ '+' :: (String.ofList (paddedDigits 4 t.year.natAbs ++ rest)).toList := by
      simp [htext, yearText_of_gt hgt]
    refine Or.inr ⟨hgt, String.ofList (paddedDigits 4 t.year.natAbs ++ rest), ?_⟩
    rw [partsAt_append htext', partsAt_of_not_mem hunsigned]
    rfl

/-- **The parts of a cursor with bounds.** A cursor with bounds falls into the query and the
texts of its two bounds exactly if both lie before the year 10000, as the stand-ins for open
ends do; each later bound makes one part more. Bounds take the place of those that are on the
cursor already. -/
theorem slice_cursor_parts (cursor : String) (start stop : Instant) :
    (∃ rest, partsAt '+' cursor = cursorQuery cursor :: rest) ∧
    (partsAt '+' (sliceCursor cursor start stop)
        = [cursorQuery cursor, start.isoText, stop.isoText] ↔
      start.year ≤ 9999 ∧ stop.year ≤ 9999) ∧
    (partsAt '+' (sliceCursor cursor start stop)).length
      = 3 + (if start.year ≤ 9999 then 0 else 1) + (if stop.year ≤ 9999 then 0 else 1) ∧
    (Instant.earliest.year = 1 ∧ Instant.latest.year = 9990) ∧
    ∀ start' stop', sliceCursor (sliceCursor cursor start stop) start' stop'
      = sliceCursor cursor start' stop' := by
  have hparts : (partsAt '+' start.isoText ++ partsAt '+' stop.isoText
        = [start.isoText, stop.isoText] ↔ start.year ≤ 9999 ∧ stop.year ≤ 9999) ∧
      (partsAt '+' start.isoText ++ partsAt '+' stop.isoText).length
        = 2 + (if start.year ≤ 9999 then 0 else 1) + (if stop.year ≤ 9999 then 0 else 1) := by
    obtain ⟨hstart, hfirst⟩ | ⟨hstart, part, hfirst⟩ := partsAt_isoText start <;>
      obtain ⟨hstop, hlast⟩ | ⟨hstop, part', hlast⟩ := partsAt_isoText stop <;>
        simp [hfirst, hlast, hstart, hstop, Int.not_le.mpr]
  refine ⟨exists_partsAt_cursor cursor, ?_, ?_, ⟨by decide, by decide⟩, fun start' stop' => ?_⟩
  · rw [partsAt_sliceCursor, List.cons.injEq, ← hparts.1]
    simp
  · rw [partsAt_sliceCursor, List.length_cons, hparts.2]
    omega
  · rw [sliceCursor_eq (sliceCursor cursor start stop), cursorQuery_sliceCursor, ← sliceCursor_eq]

/-- The span of a record. -/
def spanOfText? (text : String) : Option Span := (Document.read? text).bind Span.read?

/-- A span that ends on the last evening of the year 9999, one hour west of Greenwich. -/
def newYearSpan : String :=
  "\x7b\"cursor\":\"abc\",\"start\":\"2017-06-01T00:00:00Z\"," ++
    "\"end\":\"9999-12-31T23:30:00-01:00\"\x7d"

/-- The cursor to the events of such a span has a part too many. -/
theorem newYearSpan_splits_cursor :
    ∃ s start stop, spanOfText? newYearSpan = some s ∧ s.start = some start ∧
      s.stop = some stop ∧ partsAt '+' (sliceCursor s.cursor start stop)
        = ["abc", "2017-06-01T00:00:00.000Z", "", "10000-01-01T00:30:00.000Z"] :=
  ⟨_, _, _, rfl, rfl, rfl, by decide +kernel⟩

/-! ### Windows of open spans -/

/-- The instants between which the events of a span are asked for: its own ends, and fixed
instants for those that it lacks. -/
def Span.window (s : Span) : Instant × Instant :=
  (s.start.getD .earliest, s.stop.getD .latest)

/-- Two instants in order, with every end of a span between them. -/
structure Span.LiesWithin (s : Span) (start stop : Instant) : Prop where
  ordered : start.le stop = true
  start_mem : ∀ t, s.start = some t → start.le t = true ∧ t.le stop = true
  stop_mem : ∀ t, s.stop = some t → start.le t = true ∧ t.le stop = true

/-- A span that is not beyond what stands in for the ends that it may lack. -/
structure Span.IsInReach (s : Span) : Prop where
  start_le : ∀ t, s.start = some t → t.le .latest = true
  le_stop : ∀ t, s.stop = some t → Instant.earliest.le t = true

lemma Instant.le_refl (t : Instant) : t.le t = true := by simp [Instant.le]

namespace Span

variable {s : Span}

/-- The window of an open span is in order if the span is in reach. -/
lemma window_ordered_iff (hopen : s.start = none ∨ s.stop = none) :
    s.window.1.le s.window.2 = true ↔ s.IsInReach := by
  have hnone : ∀ {P : Instant → Prop}, ∀ t, (none : Option Instant) = some t → P t :=
    fun t h => nomatch h
  obtain ⟨cursor, _ | start, _ | stop⟩ := s
  · exact ⟨fun _ => ⟨hnone, hnone⟩, fun _ => rfl⟩
  · exact ⟨fun h => ⟨hnone, fun _ ht => Option.some.inj ht ▸ h⟩, fun h => h.le_stop stop rfl⟩
  · exact ⟨fun h => ⟨fun _ ht => Option.some.inj ht ▸ h, hnone⟩, fun h => h.start_le start rfl⟩
  · simp at hopen

/-- A window that is in order has all ends of its span in it. -/
lemma liesWithin_window (h : s.window.1.le s.window.2 = true) :
    s.LiesWithin s.window.1 s.window.2 := by
  refine ⟨h, fun t ht => ?_, fun t ht => ?_⟩
  · have hstart : s.window.1 = t := by rw [window, ht, Option.getD_some]
    exact ⟨hstart ▸ t.le_refl, hstart ▸ h⟩
  · have hstop : s.window.2 = t := by rw [window, ht, Option.getD_some]
    exact ⟨hstop ▸ h, hstop ▸ t.le_refl⟩

end Span

/-- **Windows of open spans.** The slices of spans are asked for span by span, each at the
cursor that names the window of its span, and that is what they are slices of. The window of
a span that lacks an end is in order, and has every end of the span in it, exactly if the span
neither starts after the last second of the year 9990 nor ends before the year 1: these are
the instants that stand in for missing ends. -/
theorem open_span_within_window {h : Handle} {n : Network} (hn : n.Delivers h.client)
    (spans : List Span) :
    (∃ begun blocks, begun <+: spans ∧
      List.Forall₂ (fun s block => h.client.IsEventBlock
        (sliceCursor s.cursor s.window.1 s.window.2) block) begun blocks ∧
      n.Reaches blocks.flatten (h.slicesOf spans n).2 ∧
      ∀ slices, (h.slicesOf spans n).1 = .ok slices → begun = spans ∧
        List.Forall₂ (fun s slice => (slice.start, slice.stop) = s.window) spans slices) ∧
    (∀ s ∈ spans, s.start = none ∨ s.stop = none →
      (s.window.1.le s.window.2 = true ↔ s.IsInReach) ∧
      (s.LiesWithin s.window.1 s.window.2 ↔ s.IsInReach)) ∧
    Instant.ofCivil? ⟨1, 1, 1, 0, 0, 0⟩ = some .earliest ∧
    Instant.ofCivil? ⟨9990, 12, 31, 23, 59, 59⟩ = some .latest := by
  refine ⟨?_, fun s _ hopen => ?_, rfl, rfl⟩
  · obtain ⟨begun, blocks, hprefix, hblocks, hreaches, hall⟩ := h.slicesOf_reaches spans hn
    refine ⟨begun, blocks, hprefix, hblocks, hreaches, fun slices hslices => ?_⟩
    obtain ⟨hbegun, hslice⟩ := hall slices hslices
    exact ⟨hbegun, hslice.imp fun s slice hs => by rw [hs.start, hs.stop, Span.window]⟩
  · have hordered := Span.window_ordered_iff hopen
    exact ⟨hordered, fun hwithin => hordered.mp hwithin.ordered,
      fun hreach => Span.liesWithin_window (hordered.mpr hreach)⟩

/-- A span that ends on the first of June 2017 and has no start. -/
def endedSpan : Span :=
  ⟨"abc", none, Instant.ofCivil? ⟨2017, 6, 1, 0, 0, 0⟩⟩

/-- A span that starts on the last day of the year 9999 and has no end. -/
def sentinelSpan : Span :=
  ⟨"abc", Instant.ofCivil? ⟨9999, 12, 31, 0, 0, 0⟩, none⟩

theorem endedSpan_within_window :
    (Network.ofReplies []).Delivers mountedClient ∧ endedSpan.start = none ∧
      endedSpan.LiesWithin endedSpan.window.1 endedSpan.window.2 ∧ sentinelSpan.stop = none ∧
      ¬ sentinelSpan.LiesWithin sentinelSpan.window.1 sentinelSpan.window.2 := by
  have hn : (Network.ofReplies []).Delivers mountedClient := ⟨rfl, .inl rfl, rfl⟩
  have hstart : endedSpan.start = none := rfl
  have hstop : sentinelSpan.stop = none := rfl
  obtain ⟨-, hwindows, -⟩ := open_span_within_window (h := ⟨mountedClient, "q", none, none⟩) hn
    [endedSpan, sentinelSpan]
  obtain ⟨hordered, hwithin⟩ := hwindows endedSpan (by simp) (.inl hstart)
  obtain ⟨hinverted, hwithout⟩ := hwindows sentinelSpan (by simp) (.inr hstop)
  refine ⟨hn, hstart, hwithin.mpr (hordered.mp (by decide)), hstop, fun h => ?_⟩
  exact absurd (hinverted.mpr (hwithout.mp h)) (by decide)

/-- A span without an end that starts after the year 9990, and one without a start that ends
before the year 1, have windows that end before they start. -/
theorem openSpans_invert_windows :
    (∃ s, spanOfText? "\x7b\"cursor\":\"abc\",\"start\":\"9999-12-31T00:00:00Z\"\x7d" = some s ∧
      s.stop = none ∧ s.window.1.le s.window.2 = false ∧
      sliceCursor s.cursor s.window.1 s.window.2
        = "abc+9999-12-31T00:00:00.000Z+9990-12-31T23:59:59.000Z") ∧
    ∃ s, spanOfText? "\x7b\"cursor\":\"abc\",\"end\":\"0000-06-01T00:00:00Z\"\x7d" = some s ∧
      s.start = none ∧ s.window.1.le s.window.2 = false ∧
      sliceCursor s.cursor s.window.1 s.window.2
        = "abc+0001-01-01T00:00:00.000Z+0000-06-01T00:00:00.000Z" :=
  ⟨⟨_, rfl, rfl, rfl, by decide +kernel⟩, _, rfl, rfl, rfl, by decide +kernel⟩

end EventQuery
