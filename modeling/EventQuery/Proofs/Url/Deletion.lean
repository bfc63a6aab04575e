import EventQuery.Proofs.Service.Exchange

/-!
What the requests that delete something address.

* `Url.appendSegment_concat`: what a segment does to a path, whatever it is. One or two
  dots are no piece of a path: the path stays as it is, or loses a piece.
* `deletion_spares_streams`: with names that are something else, deleting an event is
  never deleting a stream; and only two names make a stream the collection of all
  streams.
* `dots_delete_stream`: with such names it can be. The event `.` of the stream `.` is
  deleted by deleting the stream `events`.
-/

namespace EventQuery

/-- A name that is one or two dots, apart from tabs and line ends. -/
def IsDots (name : String) : Prop := withoutBreaks name = "." ∨ withoutBreaks name = ".."

namespace Url

/-! ### Any segment below a path -/

/-- What a path ends in when a segment is put below its last piece. -/
def piecesFor (last segment : String) : List String :=
  if segment = "." ∨ segment = ".." then [last]
  else if withoutBreaks segment = "." then [last, ""]
  else if withoutBreaks segment = ".." then [""]
  else [last, encodeSegment segment]

/-- A segment below a path that is more than a slash. -/
lemma appendSegment_concat {front : List String} {last : String} (h : front ++ [last] ≠ [""])
    (segment : String) :
    appendSegment (front ++ [last]) segment = front ++ piecesFor last segment := by
  have hnil : front ++ [last] ≠ [] := by simp
  rw [appendSegment, piecesFor]
  simp only [encodeSegment_eq_dot_iff, encodeSegment_eq_dots_iff, pushSegment_of_ne hnil h,
    List.append_assoc, List.singleton_append, List.dropLast_concat]
  split_ifs with hskip hdot hdots hshort <;> try rfl
  have hfront : front = [] := by simpa using hshort
  rw [hfront, List.nil_append]

lemma piecesFor_of_not_isDots {segment : String} (h : ¬ IsDots segment) (last : String) :
    piecesFor last segment = [last, encodeSegment segment] := by
  obtain ⟨hdot, hdots⟩ := not_or.mp h
  have hskip : ¬ (segment = "." ∨ segment = "..") := by
    rintro (rfl | rfl)
    · exact hdot (by decide)
    · exact hdots (by decide)
  rw [piecesFor, if_neg hskip, if_neg hdot, if_neg hdots]

lemma appendSegment_of_not_isDots {front : List String} {last segment : String}
    (h : front ++ [last] ≠ [""]) (hsegment : ¬ IsDots segment) :
    appendSegment (front ++ [last]) segment = front ++ [last, encodeSegment segment] := by
  rw [appendSegment_concat h, piecesFor_of_not_isDots hsegment]

/-- The last piece stays the last only for a segment that is passed over. -/
lemma piecesFor_eq_singleton_iff {last segment : String} (hlast : last ≠ "") :
    piecesFor last segment = [last] ↔ segment = "." ∨ segment = ".." := by
  rw [piecesFor]
  split_ifs with hskip <;> simp [hskip, hlast.symm]

/-- The last piece stays and gets at most one behind it, or nothing of it is left. -/
lemma piecesFor_eq (last segment : String) :
    piecesFor last segment = [""]
      ∨ ∃ more, more.length ≤ 1 ∧ piecesFor last segment = last :: more := by
  rw [piecesFor]
  split_ifs
  · exact .inr ⟨[], by simp, rfl⟩
  · exact .inr ⟨[""], by simp, rfl⟩
  · exact .inl rfl
  · exact .inr ⟨[encodeSegment segment], by simp, rfl⟩

lemma piecesFor_ne_nil (last segment : String) : piecesFor last segment ≠ [] := by
  rcases piecesFor_eq last segment with h | ⟨more, -, h⟩ <;> simp [h]

lemma length_piecesFor_le (last segment : String) : (piecesFor last segment).length ≤ 2 := by
  rcases piecesFor_eq last segment with h | ⟨more, hmore, h⟩
  · simp [h]
  · rw [h, List.length_cons]
    omega

lemma slash_not_mem_piecesFor {last : String} (hlast : '/' ∉ last.toList) (segment : String) :
    ∀ name ∈ piecesFor last segment, '/' ∉ name.toList := by
  rw [piecesFor]
  split_ifs <;> simp [hlast, slash_not_mem_encodeSegment]

/-! ### Streams and their events -/

/-- The first segment of a stream and of its parts comes right below the front. -/
lemma path_streams {u : Url} (hu : u.isRootless = false) (rest : List String) :
    (u.appendSegments ("streams" :: rest)).path
      = .segments (rest.foldl appendSegment (u.frontNames ++ ["streams"])) := by
  have hplain : IsPlain "streams" := by decide
  have hencoded : encodeSegment "streams" = "streams" := by decide
  cases hpath : u.path with
  | rootless text => simp [isRootless, hpath] at hu
  | segments names =>
      rw [appendSegments, hpath]
      simp only [List.foldl_cons, hplain.appendSegment_eq, pushSegment_trimPath hpath, hencoded]

lemma path_stream {u : Url} (hu : u.isRootless = false) (stream : String) :
    (u.appendSegments ["streams", stream]).path
      = .segments (u.frontNames ++ piecesFor "streams" stream) := by
  have hslash : u.frontNames ++ ["streams"] ≠ [""] := by simp [List.append_eq_singleton_iff]
  rw [path_streams hu, List.foldl_cons, List.foldl_nil, appendSegment_concat hslash]

/-- The path of a part of a stream: whatever the stream comes to, then the part and what is below
it. -/
lemma path_part {u : Url} (hu : u.isRootless = false) (stream : String) {part : String}
    (hpart : IsPlain part) :
    ∃ names : List String, (∀ name ∈ names, '/' ∉ name.toList) ∧
      (¬ IsDots stream → names = ["streams", encodeSegment stream]) ∧
      ∀ rest, (u.appendSegments ("streams" :: stream :: part :: rest)).path = .segments
        (rest.foldl appendSegment (u.frontNames ++ (names ++ [encodeSegment part]))) := by
  have hslash : u.frontNames ++ ["streams"] ≠ [""] := by simp [List.append_eq_singleton_iff]
  have hfree := slash_not_mem_piecesFor (by decide : '/' ∉ "streams".toList) stream
  simp only [path_streams hu, List.foldl_cons, appendSegment_concat hslash, hpart.appendSegment_eq,
    pushSegment]
  split_ifs with hempty
  · -- two dots have taken away the piece in front of them
    have hfront : u.frontNames = [] := by
      rcases hempty with hnil | hslash
      · exact (List.append_eq_nil_iff.mp hnil).1
      · have hne := piecesFor_ne_nil "streams" stream
        simp only [List.append_eq_singleton_iff, hne, and_false, or_false] at hslash
        exact hslash.1
    refine ⟨[], by simp, fun hstream => ?_, fun rest => ?_⟩
    · simp [piecesFor_of_not_isDots hstream, List.append_eq_singleton_iff] at hempty
    · rw [hfront, List.nil_append, List.nil_append]
  · refine ⟨piecesFor "streams" stream, hfree, fun hstream => piecesFor_of_not_isDots hstream _,
      fun rest => ?_⟩
    rw [List.append_assoc]

/-- The path of an event: whatever its stream comes to, then its own piece. -/
lemma path_event {u : Url} (hu : u.isRootless = false) (stream id : String) :
    ∃ names, (u.appendSegments ["streams", stream, "events", id]).path
        = .segments (u.frontNames ++ (names ++ piecesFor "events" id)) ∧
      (∀ name ∈ names, '/' ∉ name.toList) ∧
      (¬ IsDots stream → names = ["streams", encodeSegment stream]) := by
  have hencoded : encodeSegment "events" = "events" := by decide
  obtain ⟨names, hfree, hnames, hpath⟩ := path_part hu stream (by decide : IsPlain "events")
  have hslash : u.frontNames ++ names ++ ["events"] ≠ [""] := by
    simp [List.append_eq_singleton_iff]
  refine ⟨names, ?_, hfree, hnames⟩
  rw [hpath, hencoded, List.foldl_cons, List.foldl_nil, ← List.append_assoc,
    appendSegment_concat hslash, List.append_assoc]

end Url

/-- Where an event and its stream are not both called by dots, the pieces of the event are
not those of a stream. -/
lemma pieces_event_ne {stream id : String} (h : ¬ (IsDots stream ∧ IsDots id)) {names : List String}
    (hnames : ¬ IsDots stream → names = ["streams", Url.encodeSegment stream]) (other : String) :
    names ++ Url.piecesFor "events" id ≠ Url.piecesFor "streams" other := by
  intro heq
  have hlength := congrArg List.length heq
  have hother := Url.length_piecesFor_le "streams" other
  rw [List.length_append] at hlength
  by_cases hid : IsDots id
  · -- the stream has two pieces of its own, and the event adds to them
    have hevent := List.length_pos_iff.mpr (Url.piecesFor_ne_nil "events" id)
    have hstream := congrArg List.length (hnames fun hstream => h ⟨hstream, hid⟩)
    simp only [List.length_cons, List.length_nil] at hstream
    omega
  · rw [Url.piecesFor_of_not_isDots hid] at heq hlength
    cases names with
    | nil => rcases Url.piecesFor_eq "streams" other with h | ⟨more, -, h⟩ <;> simp [h] at heq
    | cons first rest =>
        simp only [List.length_cons, List.length_nil] at hlength
        omega

/-- **Deleting an event spares the streams**, unless both the event and its stream are
called by dots; and it never addresses the collection of all streams, which deleting a
stream does for two names only. -/
theorem deletion_spares_streams {c : Client} {n : Network} (hn : n.Delivers c)
    (stream id other name : String) (wanted : Object) :
    ∃ event whole all, (c.deleteEvent stream id).sent n = [event] ∧
      (c.destroy other).sent n = [whole] ∧ (c.streams name wanted).sent n = [all] ∧
      event.method = .delete ∧ whole.method = .delete ∧
      (¬ (IsDots stream ∧ IsDots id) → event.url.path.text ≠ whole.url.path.text) ∧
      event.url.path.text ≠ all.url.path.text ∧
      (whole.url.path.text = all.url.path.text ↔ other = "." ∨ other = "..") := by
  obtain ⟨names, hevent, hfree, hnames⟩ := Url.path_event hn.rooted stream id
  have hwhole := Url.path_stream hn.rooted other
  have hall := Url.path_streams hn.rooted []
  have hslash : '/' ∉ "streams".toList := by decide
  have hallFree : ∀ name ∈ ["streams"], '/' ∉ name.toList := by simp
  have hwholeFree := Url.slash_not_mem_piecesFor hslash other
  have heventFree : ∀ name ∈ names ++ Url.piecesFor "events" id, '/' ∉ name.toList := by
    intro name hname
    rcases List.mem_append.mp hname with h | h
    · exact hfree name h
    · exact Url.slash_not_mem_piecesFor (by decide) id name h
  refine ⟨c.request .delete ["streams", stream, "events", id] "",
    c.request .delete ["streams", other] "", c.getRequest ["streams"],
    Action.sent_ask hn (c.scheme_request _ _ _) fun _ => .ok (),
    Action.sent_ask hn (c.scheme_request _ _ _) fun _ => .ok (),
    ?_, rfl, rfl, ?_, ?_, ?_⟩
  · exact (Action.sent_map _ _ n).trans (Action.sent_ask hn (c.scheme_request _ _ _) _)
  · intro hdots htext
    simp only [Client.request, Client.resource, hevent, hwhole, UrlPath.text] at htext
    exact pieces_event_ne hdots hnames other (segmentsText_append_inj heventFree hwholeFree htext)
  · intro htext
    simp only [Client.getRequest, Client.request, Client.resource, hevent, hall, List.foldl_nil,
      UrlPath.text] at htext
    have hpieces := segmentsText_append_inj heventFree hallFree htext
    rcases List.append_eq_singleton_iff.mp hpieces with ⟨-, hsingle⟩ | ⟨-, hnone⟩
    · rcases Url.piecesFor_eq "events" id with h | ⟨more, -, h⟩ <;> simp [h] at hsingle
    · exact Url.piecesFor_ne_nil "events" id hnone
  · simp only [Client.getRequest, Client.request, Client.resource, hwhole, hall, List.foldl_nil,
      UrlPath.text]
    rw [← Url.piecesFor_eq_singleton_iff (by decide : "streams" ≠ "")]
    exact ⟨segmentsText_append_inj hwholeFree hallFree, fun h => by rw [h]⟩

theorem eventsStream_spared :
    (Network.ofReplies []).Delivers mountedClient ∧ ¬ (IsDots "." ∧ IsDots "a/..") ∧
      ∃ event whole, (mountedClient.deleteEvent "." "a/..").sent (.ofReplies []) = [event] ∧
        (mountedClient.destroy "events").sent (.ofReplies []) = [whole] ∧
        event.url.path.text ≠ whole.url.path.text := by
  have hn : (Network.ofReplies []).Delivers mountedClient := ⟨rfl, .inl rfl, rfl⟩
  have hdots : ¬ (IsDots "." ∧ IsDots "a/..") := by
    rintro ⟨-, hid⟩
    rcases hid with h | h <;> exact absurd h (by decide)
  obtain ⟨event, whole, -, hevent, hwhole, -, -, -, happart, -⟩ :=
    deletion_spares_streams hn "." "a/.." "events" "" []
  exact ⟨hn, hdots, event, whole, hevent, hwhole, happart hdots⟩

/-- The event `.` of the stream `.` is deleted by deleting a stream, and the stream `.` by
deleting the collection of all streams. -/
theorem dots_delete_stream :
    mountedConfig.connect = .ok mountedClient ∧
      (mountedClient.deleteEvent "." ".").sent (.ofReplies [])
        = (mountedClient.destroy "events").sent (.ofReplies []) ∧
      ((mountedClient.destroy "events").sent (.ofReplies [])).length = 1 ∧
      ((mountedClient.destroy ".").sent (.ofReplies [])).map Request.url
        = ((mountedClient.streams "" []).sent (.ofReplies [])).map Request.url :=
  ⟨rfl, rfl, rfl, rfl⟩

end EventQuery
