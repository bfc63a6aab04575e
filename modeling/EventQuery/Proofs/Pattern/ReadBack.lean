import EventQuery.Proofs.Json.RoundTrip
import EventQuery.Proofs.Json.Spacing
import EventQuery.Proofs.Pattern.WellFormed

/-!
The text of a query says what the query is written as.

* `query_text_reads_back`: under any indent, the text of a query is a JSON text with the
  value of the query, and without its white space it is the compact one.
-/

namespace EventQuery

/-- **The text of a query is read back.** Whatever the indent, a query that can be
written has a text of the JSON grammar. The value of that text is what the query is
written as, with the members in order and each number in its form, for every way of
reading doubles that gives those in it back; so it is for the reader of texts, given
levels for all that is nested. Without the white space outside string literals it is the
compact text. -/
theorem query_text_reads_back {q : Query} {o : QueryOptions} {v : Json}
    (h : q.encode o = .ok v) (indent : Nat) :
    ∃ t d, q.text indent o = .ok t ∧ Document.read? t = some d ∧
      (∀ double?, v.IsReadBackBy double? → d.valueBy? double? = some v) ∧
      (v.IsReadBackBy RawNumber.scaled? →
        ∀ levels, d.nesting ≤ levels → d.value? levels = some v) ∧
      q.text 0 o = .ok (String.ofList (withoutGaps .outside t.toList)) := by
  have htext : ∀ n, q.text n o = .ok (Json.text n v) := by
    intro n
    rw [Query.text, h]
    rfl
  obtain ⟨u, rfl, hu⟩ := isQueryObject_of_encode h
  refine ⟨_, _, htext indent, Json.read?_text indent _, fun double? hback => ?_,
    fun hback levels hlevels => ?_, ?_⟩
  · exact Json.valueBy?_document hu.allPlain hback
  · exact Json.value?_document hu.allPlain hback hlevels
  · rw [htext 0, Json.text, Json.text, String.toList_ofList, Json.withoutGaps_render]

/-- The double one half. -/
def half : Finite :=
  ⟨false, 4503599627370496, -53, Finite.leastFull_lt, by decide, by decide, by decide⟩

/-- A condition with a fraction, on a stream whose name is full of escapes, half an hour
after what is before it. -/
def oddQuery : Query :=
  .pattern (.after (.condition (.mk ["event", "a\tb", ""] .gt (.double (.finite half))
    (some (.named "\"\\\x01 \x7b\n")))) (Delta.empty.set .hours (.finite half)))

theorem oddQuery_reads_back : ∃ v t d, oddQuery.encode ⟨.integralAsInt⟩ = .ok v ∧
    oddQuery.text 2 ⟨.integralAsInt⟩ = .ok t ∧ Document.read? t = some d ∧
    d.valueBy? RawNumber.scaled? = some v ∧ d.value? d.nesting = some v ∧
    oddQuery.text 0 ⟨.integralAsInt⟩ = .ok (String.ofList (withoutGaps .outside t.toList)) := by
  have hv : oddQuery.encode ⟨.integralAsInt⟩ = .ok _ := rfl
  obtain ⟨t, d, ht, hd, hvalue, hlevels, hcompact⟩ := query_text_reads_back hv 2
  refine ⟨_, t, d, hv, ht, hd, hvalue _ ?back, hlevels ?back _ le_rfl, hcompact⟩
  intro x hx
  have hhalf : x = half := by
    simpa [Fields.insert, comparisonObject, spanMember, Json.strings, Json.subvalues,
      Json.itemSubvalues, Json.memberSubvalues, Json.double] using hx
  subst hhalf
  decide +kernel

end EventQuery
