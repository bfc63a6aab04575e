import EventQuery.Proofs.Text.Percent
import EventQuery.Service.Client
import Mathlib.Data.List.Forall2
import Mathlib.Tactic.Lemma

/-!
The paths of resources.

* `Url.front`: the part of a path below which segments are put.
* `Url.path_appendSegments`: below it, every segment that is plain becomes a piece
  of its own.
* `segmentsText_append_inj`: pieces without slashes are told from the text of a path.
* `resources_have_own_addresses`: so the path of a request names its segments, whatever
  characters they have.
-/

namespace EventQuery

/-! ### Encoded segments -/

/-- What a piece of a path says, if its bytes are those of a text. -/
def decodePiece? (piece : String) : Option String := textOfBytes? (percentDecode piece.toList)

/-- A text without tabs and line ends. -/
def withoutBreaks (s : String) : String :=
  String.ofList (s.toList.filter fun c => c != '\t' && c != '\n' && c != '\r')

lemma withoutBreaks_of_unbroken {s : String}
    (h : ∀ c ∈ s.toList, c ≠ '\t' ∧ c ≠ '\n' ∧ c ≠ '\r') : withoutBreaks s = s := by
  have hall : ∀ c ∈ s.toList, (c != '\t' && c != '\n' && c != '\r') = true := by
    intro c hc
    obtain ⟨htab, hfeed, hreturn⟩ := h c hc
    simp [htab, hfeed, hreturn]
  rw [withoutBreaks, List.filter_eq_self.mpr hall, String.ofList_toList]

namespace Url

/-- An encoded segment says what the segment is, apart from tabs and line ends. -/
lemma decode_encodeSegment (s : String) :
    decodePiece? (encodeSegment s) = some (withoutBreaks s) := by
  have hpercent : escapedInSegment '%' = true := by decide
  have hbytes := textOfBytes?_utf8 (withoutBreaks s)
  rw [withoutBreaks, String.toList_ofList] at hbytes
  rw [decodePiece?, encodeSegment, String.toList_ofList, percentDecode_percentEncode hpercent,
    hbytes, withoutBreaks]

/-- Segments are encoded alike only if they are the same text. -/
lemma encodeSegment_eq_iff {s t : String} :
    encodeSegment s = encodeSegment t ↔ withoutBreaks s = withoutBreaks t := by
  constructor
  · intro h
    have hs := decode_encodeSegment s
    rw [h, decode_encodeSegment t] at hs
    exact (Option.some.inj hs).symm
  · intro h
    rw [withoutBreaks, withoutBreaks, String.ofList_inj] at h
    rw [encodeSegment, encodeSegment, h]

lemma encodeSegment_eq_empty_iff {s : String} : encodeSegment s = "" ↔ withoutBreaks s = "" :=
  encodeSegment_eq_iff (t := "")

lemma encodeSegment_eq_dot_iff {s : String} : encodeSegment s = "." ↔ withoutBreaks s = "." :=
  encodeSegment_eq_iff (t := ".")

lemma encodeSegment_eq_dots_iff {s : String} : encodeSegment s = ".." ↔ withoutBreaks s = ".." :=
  encodeSegment_eq_iff (t := "..")

/-- Nothing in an encoded segment ends it. -/
lemma mem_encodeSegment {s : String} {c : Char} (h : c ∈ (encodeSegment s).toList) :
    c ≠ '/' ∧ c ≠ '?' ∧ c ≠ '#' := by
  rw [encodeSegment, String.toList_ofList] at h
  rcases mem_percentEncode h with ⟨-, hkept⟩ | rfl | ⟨n, rfl⟩
  · have hescaped : ['/', '?', '#'].all escapedInSegment = true := by decide
    rw [List.all_eq_true] at hescaped
    refine ⟨?_, ?_, ?_⟩ <;> rintro rfl <;> simp [hescaped] at hkept
  · decide
  · have hdigit : ∀ n : Fin 16, upperHexDigit n ≠ '/' ∧ upperHexDigit n ≠ '?' ∧
        upperHexDigit n ≠ '#' := by decide
    exact hdigit n

lemma slash_not_mem_encodeSegment (s : String) : '/' ∉ (encodeSegment s).toList :=
  fun h => (mem_encodeSegment h).1 rfl

/-! ### One segment -/

lemma pushSegment_of_ne {names : List String} (hnil : names ≠ []) (hslash : names ≠ [""])
    (segment : String) : pushSegment names segment = names ++ [segment] := by
  rw [pushSegment, if_neg (not_or_intro hnil hslash)]

end Url

/-- A segment that nothing is lost of: it is no dot segment and has no tabs and no line
ends. -/
structure IsPlain (segment : String) : Prop where
  ne_dot : segment ≠ "."
  ne_dots : segment ≠ ".."
  unbroken : ∀ c ∈ segment.toList, c ≠ '\t' ∧ c ≠ '\n' ∧ c ≠ '\r'

instance (segment : String) : Decidable (IsPlain segment) :=
  decidable_of_iff (segment ≠ "." ∧ segment ≠ ".." ∧
      (segment.toList.all fun c => c != '\t' && c != '\n' && c != '\r') = true)
    ⟨fun ⟨hdot, hdots, hall⟩ => ⟨hdot, hdots, by simpa [and_assoc] using hall⟩,
      fun ⟨hdot, hdots, hall⟩ => ⟨hdot, hdots, by simpa [and_assoc] using hall⟩⟩

namespace IsPlain

lemma withoutBreaks_eq {s : String} (h : IsPlain s) : withoutBreaks s = s :=
  withoutBreaks_of_unbroken h.unbroken

lemma encodeSegment_ne_empty {s : String} (h : IsPlain s) (hs : s ≠ "") :
    Url.encodeSegment s ≠ "" := by
  rwa [Ne, Url.encodeSegment_eq_empty_iff, h.withoutBreaks_eq]

/-- A plain segment comes back from its encoded form. -/
lemma decode_encodeSegment {s : String} (h : IsPlain s) :
    decodePiece? (Url.encodeSegment s) = some s := by
  rw [Url.decode_encodeSegment, h.withoutBreaks_eq]

/-- Plain segments are told from their encoded forms. -/
lemma map_encodeSegment_inj {segments others : List String} (hsegments : ∀ s ∈ segments, IsPlain s)
    (hothers : ∀ s ∈ others, IsPlain s)
    (h : segments.map Url.encodeSegment = others.map Url.encodeSegment) : segments = others := by
  have hback : ∀ ss : List String, (∀ s ∈ ss, IsPlain s) →
      (ss.map Url.encodeSegment).map decodePiece? = ss.map some := by
    intro ss hss
    rw [List.map_map]
    refine List.map_congr_left fun s hs => ?_
    rw [Function.comp_apply, (hss s hs).decode_encodeSegment]
  refine List.map_injective_iff.mpr (fun _ _ => Option.some.inj) ?_
  rw [← hback segments hsegments, h, hback others hothers]

/-- A plain segment is put below a path in encoded form. -/
lemma appendSegment_eq {s : String} (h : IsPlain s) (names : List String) :
    Url.appendSegment names s = Url.pushSegment names (Url.encodeSegment s) := by
  have hdot : Url.encodeSegment s ≠ "." := by
    rw [Ne, Url.encodeSegment_eq_dot_iff, h.withoutBreaks_eq]
    exact h.ne_dot
  have hdots : Url.encodeSegment s ≠ ".." := by
    rw [Ne, Url.encodeSegment_eq_dots_iff, h.withoutBreaks_eq]
    exact h.ne_dots
  rw [Url.appendSegment, if_neg (not_or_intro h.ne_dot h.ne_dots)]
  simp only [if_neg hdot, if_neg hdots]

end IsPlain

/-! ### The text of a path -/

lemma segmentsText_append (names others : List String) :
    segmentsText (names ++ others) = segmentsText names ++ segmentsText others := by
  rw [segmentsText, List.map_append, String.join_append, segmentsText, segmentsText]

/-- A list of texts, each after a separator. -/
lemma intercalate_cons {α : Type} (separator first : List α) (rest : List (List α)) :
    separator.intercalate (first :: rest) = first ++ rest.flatMap (separator ++ ·) := by
  induction rest generalizing first with
  | nil => simp
  | cons next rest ih =>
      rw [List.intercalate_cons_cons, ih, List.flatMap_cons, List.append_assoc, List.append_assoc]

/-- The pieces of a path stand between its slashes. -/
lemma splitOn_segmentsText {names : List String} (h : ∀ name ∈ names, '/' ∉ name.toList) :
    (segmentsText names).toList.splitOn '/' = [] :: names.map String.toList := by
  have htext : (segmentsText names).toList
      = ['/'].intercalate ([] :: names.map String.toList) := by
    rw [intercalate_cons, segmentsText, String.toList_join, List.flatMap_map, List.flatMap_map]
    simp
  rw [htext]
  refine List.splitOn_intercalate '/' ?_ (List.cons_ne_nil _ _)
  simpa using h

/-- Below the same front, pieces without slashes are told from the text of a path. -/
lemma segmentsText_append_inj {front names others : List String}
    (hnames : ∀ name ∈ names, '/' ∉ name.toList) (hothers : ∀ name ∈ others, '/' ∉ name.toList)
    (h : segmentsText (front ++ names) = segmentsText (front ++ others)) : names = others := by
  have htext : (segmentsText names).toList = (segmentsText others).toList := by
    rw [segmentsText_append, segmentsText_append, ← String.toList_inj, String.toList_append,
      String.toList_append] at h
    exact List.append_cancel_left h
  have hpieces := splitOn_segmentsText hnames
  rw [htext, splitOn_segmentsText hothers, List.cons.injEq] at hpieces
  exact List.map_injective_iff.mpr (fun _ _ => String.toList_inj.mp) hpieces.2.symm

/-! ### Segments below a base -/

namespace Url

/-- The names in a path below which segments are put: all but an empty one at the end. -/
def frontNames (u : Url) : List String :=
  match u.path with
  | .segments names => if trimPath names = [""] then [] else trimPath names
  | .rootless _ => []

/-- The text of a path below which segments are put. -/
def front (u : Url) : String := segmentsText u.frontNames

/-- The first segment comes right below the front. -/
lemma pushSegment_trimPath {u : Url} {names : List String} (hpath : u.path = .segments names)
    (segment : String) : pushSegment (trimPath names) segment = u.frontNames ++ [segment] := by
  simp only [frontNames, hpath, pushSegment]
  by_cases hslash : trimPath names = [""]
  · simp [hslash]
  · by_cases hnil : trimPath names = []
    · simp [hnil]
    · simp [hslash, hnil]

/-- Plain segments below a path that is more than a slash. -/
lemma foldl_appendSegment {segments : List String} (hplain : ∀ s ∈ segments, IsPlain s) :
    ∀ {names : List String}, names ≠ [] → names ≠ [""] →
      segments.foldl appendSegment names = names ++ segments.map encodeSegment := by
  induction segments with
  | nil => simp
  | cons s segments ih =>
      intro names hnil hslash
      obtain ⟨hs, hsegments⟩ := List.forall_mem_cons.mp hplain
      have hmore : names ++ [encodeSegment s] ≠ [""] := by
        simp [List.append_eq_singleton_iff, hnil]
      rw [List.foldl_cons, hs.appendSegment_eq, pushSegment_of_ne hnil hslash,
        ih hsegments (by simp) hmore, List.map_cons, List.append_assoc, List.singleton_append]

/-- **Plain segments become pieces of their own**, if the first one is not empty. -/
lemma path_appendSegments {u : Url} (hu : u.isRootless = false) {first : String}
    {rest : List String} (hfirst : first ≠ "") (hplain : ∀ s ∈ first :: rest, IsPlain s) :
    (u.appendSegments (first :: rest)).path
      = .segments (u.frontNames ++ (first :: rest).map encodeSegment) := by
  obtain ⟨hp, hrest⟩ := List.forall_mem_cons.mp hplain
  have hencoded := hp.encodeSegment_ne_empty hfirst
  cases hpath : u.path with
  | rootless text => simp [isRootless, hpath] at hu
  | segments names =>
      have hslash : u.frontNames ++ [encodeSegment first] ≠ [""] := by
        simp [List.append_eq_singleton_iff, hencoded]
      rw [appendSegments, hpath]
      simp only [List.foldl_cons]
      rw [hp.appendSegment_eq, pushSegment_trimPath hpath,
        foldl_appendSegment hrest (by simp) hslash, List.map_cons, List.append_assoc,
        List.singleton_append]

/-- Without segments, there is at most a slash below the front. -/
lemma path_appendSegments_nil {u : Url} (hu : u.isRootless = false) :
    ∃ names, (u.appendSegments []).path = .segments (u.frontNames ++ names) ∧
      (names = [] ∨ names = [""]) := by
  cases hpath : u.path with
  | rootless text => simp [isRootless, hpath] at hu
  | segments names =>
      by_cases hslash : trimPath names = [""]
      · exact ⟨[""], by simp [appendSegments, frontNames, hpath, hslash], .inr rfl⟩
      · exact ⟨[], by simp [appendSegments, frontNames, hpath, hslash], .inl rfl⟩

/-- A plain segment at the end is the last piece, whatever the others are. -/
lemma exists_path_concat {u : Url} (hu : u.isRootless = false) (segments : List String)
    {last : String} (hlast : IsPlain last) :
    ∃ names, (u.appendSegments (segments ++ [last])).path
      = .segments (names ++ [encodeSegment last]) := by
  cases hpath : u.path with
  | rootless text => simp [isRootless, hpath] at hu
  | segments names =>
      rw [appendSegments, hpath]
      simp only [List.foldl_append, List.foldl_cons, List.foldl_nil, hlast.appendSegment_eq,
        pushSegment]
      split_ifs
      · exact ⟨[], rfl⟩
      · exact ⟨_, rfl⟩

lemma scheme_appendSegments (u : Url) (segments : List String) :
    (u.appendSegments segments).scheme = u.scheme := by
  rw [appendSegments]
  split <;> rfl

lemma authority_appendSegments (u : Url) (segments : List String) :
    (u.appendSegments segments).authority = u.authority := by
  rw [appendSegments]
  split <;> rfl

lemma query_appendSegments (u : Url) (segments : List String) :
    (u.appendSegments segments).query = u.query := by
  rw [appendSegments]
  split <;> rfl

end Url

/-! ### Requests -/

/-- A client that is connected can put segments below its base. -/
lemma Config.isRootless_of_connect {cfg : Config} {c : Client} (h : cfg.connect = .ok c) :
    c.base.isRootless = false := by
  rw [connect] at h
  split at h
  · cases h
  · rename_i base hbase
    split_ifs at h
    cases h
    rw [Config.base] at hbase
    split at hbase
    · cases hbase
    · split_ifs at hbase with hrootless
      cases hbase
      exact Bool.eq_false_iff.mpr hrootless

/-- The segments of a resource: plain ones, and no empty one at the front. -/
structure IsAddress (segments : List String) : Prop where
  head : segments.head? ≠ some ""
  plain : ∀ s ∈ segments, IsPlain s

/-- The pieces of an address below the front of a base. -/
lemma IsAddress.exists_pieces {u : Url} (hu : u.isRootless = false) {segments : List String}
    (h : IsAddress segments) :
    ∃ names, (u.appendSegments segments).path = .segments (u.frontNames ++ names) ∧
      (∀ name ∈ names, '/' ∉ name.toList) ∧
      (segments = [] ∧ (names = [] ∨ names = [""]) ∨
        names ≠ [] ∧ names ≠ [""] ∧ names = segments.map Url.encodeSegment) := by
  cases segments with
  | nil =>
      obtain ⟨names, hpath, hnames⟩ := Url.path_appendSegments_nil hu
      refine ⟨names, hpath, ?_, .inl ⟨rfl, hnames⟩⟩
      rcases hnames with rfl | rfl <;> simp
  | cons first rest =>
      have hfirst : first ≠ "" := by
        rintro rfl
        exact h.head rfl
      have hencoded := (h.plain first List.mem_cons_self).encodeSegment_ne_empty hfirst
      refine ⟨_, Url.path_appendSegments hu hfirst h.plain, ?_, .inr ⟨by simp, ?_, rfl⟩⟩
      · intro name hname
        obtain ⟨s, -, rfl⟩ := List.mem_map.mp hname
        exact Url.slash_not_mem_encodeSegment s
      · intro hslash
        exact hencoded (List.cons.inj hslash).1

/-- **A resource has an address of its own**: below a front that belongs to the base, a
piece for each segment that says what the segment is. -/
theorem resources_have_own_addresses {cfg : Config} {c : Client} (hconnect : cfg.connect = .ok c) :
    (∀ first rest, first ≠ "" → (∀ s ∈ first :: rest, IsPlain s) →
      ∃ pieces, (c.resource (first :: rest)).path.text = c.base.front ++ segmentsText pieces ∧
        List.Forall₂ (fun segment piece =>
          (∀ ch ∈ piece.toList, ch ≠ '/' ∧ ch ≠ '?' ∧ ch ≠ '#') ∧
            decodePiece? piece = some segment) (first :: rest) pieces ∧
        (c.resource (first :: rest)).scheme = c.base.scheme ∧
        (c.resource (first :: rest)).authority = c.base.authority ∧
        (c.resource (first :: rest)).query = c.base.query) ∧
    ∀ (method : Method) segments others body body', IsAddress segments → IsAddress others →
      (c.request method segments body).url.path.text
          = (c.request method others body').url.path.text →
        segments = others := by
  have hbase := Config.isRootless_of_connect hconnect
  constructor
  · intro first rest hfirst hplain
    refine ⟨(first :: rest).map Url.encodeSegment, ?_, ?_, Url.scheme_appendSegments _ _,
      Url.authority_appendSegments _ _, Url.query_appendSegments _ _⟩
    · rw [Client.resource, Url.path_appendSegments hbase hfirst hplain, UrlPath.text,
        segmentsText_append, Url.front]
    · rw [List.forall₂_map_right_iff, List.forall₂_same]
      intro segment hsegment
      exact ⟨fun ch hch => Url.mem_encodeSegment hch,
        (hplain segment hsegment).decode_encodeSegment⟩
  · intro method segments others body body' hsegments hothers hpath
    obtain ⟨names, hnames, hfree, hshape⟩ := hsegments.exists_pieces hbase
    obtain ⟨names', hnames', hfree', hshape'⟩ := hothers.exists_pieces hbase
    simp only [Client.request, Client.resource, hnames, hnames', UrlPath.text] at hpath
    obtain rfl := segmentsText_append_inj hfree hfree' hpath
    rcases hshape with ⟨rfl, hempty⟩ | ⟨hnil, hslash, hmap⟩
    · rcases hshape' with ⟨rfl, -⟩ | ⟨hnil, hslash, -⟩
      · rfl
      · exact absurd hempty (not_or_intro hnil hslash)
    · rcases hshape' with ⟨-, hempty⟩ | ⟨-, -, hmap'⟩
      · exact absurd hempty (not_or_intro hnil hslash)
      · exact IsPlain.map_encodeSegment_inj hsegments.plain hothers.plain (hmap.symm.trans hmap')

/-- A service that is mounted below a path, with fields of its own in each query. -/
def mountedConfig : Config := ⟨"key", "http://[::1]/api/?v=1", .default⟩

/-- The client of a service that is mounted below a path. -/
def mountedClient : Client :=
  ⟨mountedConfig, ⟨"http", some ⟨"", "", .ipv6 [0, 0, 0, 0, 0, 0, 0, 1], none⟩,
    .segments ["api", ""], some "v=1"⟩⟩

theorem oddNames_addressed :
    mountedConfig.connect = .ok mountedClient ∧
      (∃ pieces, (mountedClient.resource ["streams", "a/b%2F?", "", "\u00e9+"]).path.text
          = "/api" ++ segmentsText pieces ∧
        List.Forall₂ (fun segment piece => decodePiece? piece = some segment)
          ["streams", "a/b%2F?", "", "\u00e9+"] pieces) ∧
      (mountedClient.request .get ["streams", "a/b"] "").url.path.text
        ≠ (mountedClient.request .get ["streams", "a", "b"] "").url.path.text := by
  have hconnect : mountedConfig.connect = .ok mountedClient := rfl
  have hplain : ∀ s ∈ ["streams", "a/b%2F?", "", "\u00e9+", "a/b", "a", "b"], IsPlain s := by
    simp only [List.forall_mem_cons, List.not_mem_nil, false_implies, implies_true, and_true]
    refine ⟨?_, ?_, ?_, ?_, ?_, ?_, ?_⟩ <;> decide
  obtain ⟨hpieces, hown⟩ := resources_have_own_addresses hconnect
  obtain ⟨pieces, htext, hall, -⟩ := hpieces "streams" ["a/b%2F?", "", "\u00e9+"] (by decide)
    fun s hs => hplain s (List.mem_append_left ["a/b", "a", "b"] hs)
  refine ⟨hconnect, ⟨pieces, htext, hall.imp fun _ _ h => h.2⟩, fun hsame => ?_⟩
  have hslash : IsAddress ["streams", "a/b"] := ⟨by decide, fun s hs => hplain s (by grind)⟩
  have hparts : IsAddress ["streams", "a", "b"] := ⟨by decide, fun s hs => hplain s (by grind)⟩
  exact absurd (hown .get _ _ "" "" hslash hparts hsame) (by decide)

end EventQuery
