import EventQuery.Proofs.Service.Calls
import EventQuery.Proofs.Text.Parts
import EventQuery.Proofs.Url.Deletion

/-!
The names that fields are asked for by.

* `FieldEntry.parts`: what the names on the path of a field come to between their points.
* `FieldEntry.qualified_inj`: the qualified name of a field says these parts, and nothing of
  where the names on the path begin.
* `Url.path_stats_inj`: the path of a request for statistics says the name of the field,
  apart from tabs and line ends.
* `statistics_asked_by_parts`: so two fields are asked for alike if they have the same
  parts, and only then. Fields whose names stay whole (`StaysWhole`) are told apart.
* `pointedName_asked_alike`: fields whose names have points or tabs need not be.
-/

namespace EventQuery

/-! ### Qualified names -/

namespace FieldEntry

/-- The parts of the names on the path of a field, between their points. -/
def parts (f : FieldEntry) : List String := f.path.flatMap (partsAt '.')

/-- A qualified name is taken apart at the points in the names as well. -/
lemma partsAt_qualified (f : FieldEntry) : partsAt '.' f.qualified = eventRoot :: f.parts := by
  have hroot : partsAt '.' eventRoot = [eventRoot] := partsAt_of_not_mem (by decide)
  have hparts : partsAt '.' f.qualified = (eventRoot :: f.path).flatMap (partsAt '.') :=
    partsAt_intercalate eventRoot f.path
  rw [hparts, List.flatMap_cons, hroot, List.singleton_append, parts]

/-- Fields have the same qualified name if they have the same parts. -/
lemma qualified_inj {f g : FieldEntry} : f.qualified = g.qualified ↔ f.parts = g.parts := by
  rw [← partsAt_inj, partsAt_qualified, partsAt_qualified, List.cons_inj_right]

/-- Names without points are the parts themselves. -/
lemma parts_eq_path {f : FieldEntry} (h : ∀ name ∈ f.path, '.' ∉ name.toList) :
    f.parts = f.path := by
  rw [parts, List.flatMap_congr fun name hname => partsAt_of_not_mem (h name hname)]
  exact List.flatMap_singleton' f.path

/-- Tabs and line ends are lost of each part of a text as they are of the text. -/
lemma partsAt_withoutBreaks (s : String) :
    partsAt '.' (withoutBreaks s) = (partsAt '.' s).map withoutBreaks :=
  partsAt_filter (by decide) s

lemma partsAt_withoutBreaks_qualified (f : FieldEntry) :
    partsAt '.' (withoutBreaks f.qualified) = eventRoot :: f.parts.map withoutBreaks := by
  have hroot : withoutBreaks eventRoot = eventRoot := by decide
  rw [partsAt_withoutBreaks, partsAt_qualified, List.map_cons, hroot]

lemma withoutBreaks_qualified_inj {f g : FieldEntry} :
    withoutBreaks f.qualified = withoutBreaks g.qualified
      ↔ f.parts.map withoutBreaks = g.parts.map withoutBreaks := by
  rw [← partsAt_inj, partsAt_withoutBreaks_qualified, partsAt_withoutBreaks_qualified,
    List.cons_inj_right]

/-- A qualified name is no dots: these have an empty part where the root of an event is. -/
lemma not_isDots_qualified (f : FieldEntry) : ¬ IsDots f.qualified := by
  rintro (h | h) <;>
  · have hparts := f.partsAt_withoutBreaks_qualified
    rw [h] at hparts
    exact absurd (List.cons.inj hparts).1 (by decide)

end FieldEntry

/-! ### Requests for statistics -/

namespace Url

lemma path_addQuery (u : Url) (fields : List (String × String)) :
    (u.addQuery fields).path = u.path := by
  rw [addQuery]
  split <;> rfl

/-- Below the same base, resources with the same path are the same. -/
lemma appendSegments_eq_of_path {u : Url} {segments others : List String}
    (h : (u.appendSegments segments).path = (u.appendSegments others).path) :
    u.appendSegments segments = u.appendSegments others := by
  rw [appendSegments, appendSegments] at h ⊢
  split
  · rfl
  · rename_i names hpath
    simp only [hpath] at h
    rw [h]

/-- The statistics of a field are below a piece for its name, and this below what the stream
comes to. -/
lemma path_stats {u : Url} (hu : u.isRootless = false) (stream : String) :
    ∃ names : List String, (∀ name ∈ names, '/' ∉ name.toList) ∧ ∀ field, ¬ IsDots field →
      (u.appendSegments ["streams", stream, "fields", field, "stats"]).path
        = .segments (u.frontNames ++ (names ++ ["fields", encodeSegment field, "stats"])) := by
  have hfields : encodeSegment "fields" = "fields" := by decide
  have hstats : encodeSegment "stats" = "stats" := by decide
  have hdots : ¬ IsDots "stats" := by
    rintro (h | h) <;> exact absurd h (by decide)
  obtain ⟨names, hfree, -, hpath⟩ := path_part hu stream (by decide : IsPlain "fields")
  refine ⟨names, hfree, fun field hfield => ?_⟩
  have hpart : u.frontNames ++ names ++ ["fields"] ≠ [""] := by
    simp [List.append_eq_singleton_iff]
  have hpiece : u.frontNames ++ names ++ ["fields"] ++ [encodeSegment field] ≠ [""] := by
    simp [List.append_eq_singleton_iff]
  rw [hpath, hfields, List.foldl_cons, List.foldl_cons, List.foldl_nil, ← List.append_assoc,
    appendSegment_of_not_isDots hpart hfield, List.append_cons _ "fields" [encodeSegment field],
    appendSegment_of_not_isDots hpiece hdots, hstats]
  simp only [List.append_assoc, List.singleton_append]

/-- Fields whose names differ in tabs and line ends only have the same statistics. -/
lemma stats_eq_of_withoutBreaks {u : Url} (hu : u.isRootless = false) (stream : String)
    {field other : String} (hfield : ¬ IsDots field) (hother : ¬ IsDots other)
    (h : withoutBreaks field = withoutBreaks other) :
    u.appendSegments ["streams", stream, "fields", field, "stats"]
      = u.appendSegments ["streams", stream, "fields", other, "stats"] := by
  obtain ⟨names, -, hpath⟩ := path_stats hu stream
  refine appendSegments_eq_of_path ?_
  rw [hpath field hfield, hpath other hother, encodeSegment_eq_iff.mpr h]

/-- The path of the statistics of a field says the name of the field, apart from tabs and line
ends. -/
lemma path_stats_inj {u : Url} (hu : u.isRootless = false) {stream field other : String}
    (hfield : ¬ IsDots field) (hother : ¬ IsDots other) :
    (u.appendSegments ["streams", stream, "fields", field, "stats"]).path.text
        = (u.appendSegments ["streams", stream, "fields", other, "stats"]).path.text
      ↔ withoutBreaks field = withoutBreaks other := by
  refine ⟨fun h => ?_, fun h => by rw [stats_eq_of_withoutBreaks hu stream hfield hother h]⟩
  obtain ⟨names, hfree, hpath⟩ := path_stats hu stream
  have hpieces : ∀ segment, ∀ name ∈ names ++ ["fields", encodeSegment segment, "stats"],
      '/' ∉ name.toList := by
    intro segment
    rw [List.forall_mem_append]
    exact ⟨hfree, by simp [slash_not_mem_encodeSegment]⟩
  rw [hpath field hfield, hpath other hother, UrlPath.text, UrlPath.text] at h
  have hsame := List.append_cancel_left (segmentsText_append_inj (hpieces _) (hpieces _) h)
  exact encodeSegment_eq_iff.mp (List.cons.inj (List.cons.inj hsame).2).1

end Url

/-- A name that stays as it is in the request for its field: there are no points in it, and no
tabs and line ends. -/
def StaysWhole (name : String) : Prop :=
  ∀ c ∈ name.toList, c ≠ '.' ∧ c ≠ '\t' ∧ c ≠ '\n' ∧ c ≠ '\r'

instance (name : String) : Decidable (StaysWhole name) :=
  List.decidableBAll (fun c => c ≠ '.' ∧ c ≠ '\t' ∧ c ≠ '\n' ∧ c ≠ '\r') name.toList

/-- Of a field whose names are whole, a request says the names. -/
lemma FieldEntry.map_withoutBreaks_parts {f : FieldEntry} (h : ∀ name ∈ f.path, StaysWhole name) :
    f.parts.map withoutBreaks = f.path := by
  have hpoints : ∀ name ∈ f.path, '.' ∉ name.toList :=
    fun name hname hpoint => (h name hname _ hpoint).1 rfl
  have hbreaks : f.path.map withoutBreaks = f.path.map fun name => name :=
    List.map_congr_left fun name hname =>
      withoutBreaks_of_unbroken fun c hc => (h name hname c hc).2
  rw [parts_eq_path hpoints, hbreaks, List.map_id']

/-- **Fields are asked for by the parts of their names.** Their qualified names are the same
if these parts are, and their requests if the parts are but for tabs and line ends; so fields
are told apart by their paths where the names on these have no such characters. -/
theorem statistics_asked_by_parts {c : Client} {n : Network} (hn : n.Delivers c) (stream : String)
    (f g : FieldEntry) (start stop start' stop' : Option Instant) :
    (f.qualified = g.qualified ↔ f.parts = g.parts) ∧
      ((∀ name ∈ f.path ++ g.path, '.' ∉ name.toList) → f.path ≠ g.path →
        f.qualified ≠ g.qualified) ∧
      ∃ r r', (c.fieldStats stream f start stop).sent n = [r] ∧
        (c.fieldStats stream g start' stop').sent n = [r'] ∧
        (r.url.path.text = r'.url.path.text
          ↔ f.parts.map withoutBreaks = g.parts.map withoutBreaks) ∧
        (start = start' → stop = stop' →
          (r = r' ↔ f.parts.map withoutBreaks = g.parts.map withoutBreaks)) ∧
        ((∀ name ∈ f.path ++ g.path, StaysWhole name) → f.path ≠ g.path →
          r.url.path.text ≠ r'.url.path.text) := by
  have hask : ∀ (h : FieldEntry) t u, (c.fieldStats stream h t u).sent n
      = [ClientCall.statsRequest c stream h.qualified t u] :=
    fun h t u => Action.sent_ask hn (ClientCall.scheme_statsRequest c stream h.qualified t u) _
  have hpath : (ClientCall.statsRequest c stream f.qualified start stop).url.path.text
        = (ClientCall.statsRequest c stream g.qualified start' stop').url.path.text
      ↔ f.parts.map withoutBreaks = g.parts.map withoutBreaks := by
    rw [← FieldEntry.withoutBreaks_qualified_inj,
      ← Url.path_stats_inj hn.rooted f.not_isDots_qualified g.not_isDots_qualified,
      ClientCall.statsRequest, ClientCall.statsRequest, Url.path_addQuery, Url.path_addQuery]
    rfl
  refine ⟨FieldEntry.qualified_inj, fun hpoints hne hsame => ?_, _, _, hask f start stop,
    hask g start' stop', hpath, ?_, fun hwhole hne hsame => ?_⟩
  · obtain ⟨hf, hg⟩ := List.forall_mem_append.mp hpoints
    rw [FieldEntry.qualified_inj, FieldEntry.parts_eq_path hf, FieldEntry.parts_eq_path hg] at hsame
    exact hne hsame
  · rintro rfl rfl
    refine ⟨fun h => hpath.mp (by rw [h]), fun hparts => ?_⟩
    have hresource := Url.stats_eq_of_withoutBreaks hn.rooted stream f.not_isDots_qualified
      g.not_isDots_qualified (FieldEntry.withoutBreaks_qualified_inj.mpr hparts)
    simp only [ClientCall.statsRequest, Client.getRequest, Client.request, Client.resource,
      hresource]
  · obtain ⟨hf, hg⟩ := List.forall_mem_append.mp hwhole
    rw [hpath, FieldEntry.map_withoutBreaks_parts hf,
      FieldEntry.map_withoutBreaks_parts hg] at hsame
    exact hne hsame

/-- A field with this path, known from the beginning. -/
def fieldAt (path : List String) : FieldEntry := ⟨"", path, .earliest⟩

theorem emptyName_asked_apart :
    (Network.ofReplies []).Delivers mountedClient ∧
      (∀ name ∈ (fieldAt ["", "a"]).path ++ (fieldAt ["a", ""]).path, StaysWhole name) ∧
      (fieldAt ["", "a"]).qualified ≠ (fieldAt ["a", ""]).qualified ∧
      ∃ r r', (mountedClient.fieldStats ".." (fieldAt ["", "a"]) none none).sent (.ofReplies [])
          = [r] ∧
        (mountedClient.fieldStats ".." (fieldAt ["a", ""]) (some .earliest) none).sent
          (.ofReplies []) = [r'] ∧ r.url.path.text ≠ r'.url.path.text := by
  have hn : (Network.ofReplies []).Delivers mountedClient := ⟨rfl, .inl rfl, rfl⟩
  have hwhole : ∀ name ∈ (fieldAt ["", "a"]).path ++ (fieldAt ["a", ""]).path, StaysWhole name := by
    decide
  obtain ⟨-, happart, r, r', hr, hr', -, -, hpaths⟩ :=
    statistics_asked_by_parts hn ".." (fieldAt ["", "a"]) (fieldAt ["a", ""]) none none
      (some .earliest) none
  exact ⟨hn, hwhole, happart (by decide) (by decide), r, r', hr, hr', hpaths hwhole (by decide)⟩

/-- A name with a point is asked for like two names, although the paths are not the same; and one
with a tab like one without, although the qualified names are not. -/
theorem pointedName_asked_alike :
    mountedConfig.connect = .ok mountedClient ∧
      ((fieldAt ["a.b"]).path ≠ (fieldAt ["a", "b"]).path ∧
        (fieldAt ["a.b"]).qualified = (fieldAt ["a", "b"]).qualified ∧
        (mountedClient.fieldStats "s" (fieldAt ["a.b"]) none none).sent (.ofReplies [])
          = (mountedClient.fieldStats "s" (fieldAt ["a", "b"]) none none).sent (.ofReplies []) ∧
        ((mountedClient.fieldStats "s" (fieldAt ["a", "b"]) none none).sent
          (.ofReplies [])).length = 1) ∧
      (fieldAt ["a\tb"]).qualified ≠ (fieldAt ["ab"]).qualified ∧
      (mountedClient.fieldStats "s" (fieldAt ["a\tb"]) none none).sent (.ofReplies [])
        = (mountedClient.fieldStats "s" (fieldAt ["ab"]) none none).sent (.ofReplies []) ∧
      ((mountedClient.fieldStats "s" (fieldAt ["ab"]) none none).sent (.ofReplies [])).length = 1 :=
  ⟨rfl, ⟨by decide, by decide, by decide +kernel, by decide +kernel⟩, by decide,
    by decide +kernel, by decide +kernel⟩

end EventQuery
