import EventQuery.Proofs.Json.Rendering
import EventQuery.Proofs.Service.Bodies
import EventQuery.Proofs.Service.Exchange
import EventQuery.Proofs.Text.Lowercase
import EventQuery.Service.Client

/-!
Streams found by parts of their names.

A stream is looked for by a part of its name, and the part and the name are compared in
lower case. A part that keeps its sigmas is found in every name that has it; one that does
not is another text in lower case than in its place.

* `StreamEntry.Has`: metadata with all of the wanted members;
  `StreamEntry.isMatch_eq_true_iff`: what it takes to match.
* `streams_found_by_parts`: parts that are found, and the streams that are listed.
* `seaName_not_found`: a stream that is not found by the beginning of its name.
-/

namespace EventQuery

namespace StreamEntry

/-! ### Parts of names -/

lemma occursIn_eq_true_iff {part cs : List Char} : occursIn part cs = true ↔ part <:+: cs := by
  induction cs with
  | nil => rw [occursIn, List.isEmpty_iff, List.infix_nil]
  | cons c cs ih =>
      rw [occursIn, Bool.or_eq_true, ih, List.isPrefixOf_iff_prefix, List.infix_cons_iff]

/-- A part that keeps its sigmas is a part in lower case. -/
lemma lowercase_of_keepsSigmas {front part back : List Char} (h : KeepsSigmas front part back) :
    lowercase part <:+: lowercase (front ++ part ++ back) := by
  rw [lowercase_parts, lowerBetween_eq_lowercase_iff.mpr h]
  exact ⟨_, _, rfl⟩

/-! ### Metadata -/

/-- The metadata of a stream has each of the wanted members, with an equal value. -/
def Has (s : StreamEntry) (wanted : Object) : Prop :=
  ∀ m ∈ wanted, ∃ v, Fields.find? m.1 s.metadata = some v ∧ v.equal m.2 = true

lemma hasMember_eq_true_iff {metadata : Object} {m : String × Json} :
    hasMember metadata m = true ↔
      ∃ v, Fields.find? m.1 metadata = some v ∧ v.equal m.2 = true := by
  rw [hasMember]
  cases Fields.find? m.1 metadata <;> simp

lemma isMatch_eq_true_iff {s : StreamEntry} {name : String} {wanted : Object} :
    s.isMatch name wanted = true ↔
      lowercase name.toList <:+: lowercase s.name.toList ∧ s.Has wanted := by
  rw [isMatch, Bool.and_eq_true, occursIn_eq_true_iff, List.all_eq_true, Has]
  simp only [hasMember_eq_true_iff]

/-- More members are had by fewer streams. -/
lemma isMatch_of_subset {s : StreamEntry} {name : String} {wanted more : Object}
    (h : wanted ⊆ more) (hmore : s.isMatch name more = true) : s.isMatch name wanted = true := by
  obtain ⟨hname, hhas⟩ := isMatch_eq_true_iff.mp hmore
  exact isMatch_eq_true_iff.mpr ⟨hname, fun m hm => hhas m (h hm)⟩

end StreamEntry

/-! ### Streams of the service -/

/-- The names of the streams that match, of those that the service lists. -/
def namesMatching (entries : List StreamEntry) (name : String) (wanted : Object) : List String :=
  (entries.filter fun s => s.isMatch name wanted).map StreamEntry.name

lemma namesMatching_sublist {wanted more : Object} (h : wanted ⊆ more)
    (entries : List StreamEntry) (name : String) :
    (namesMatching entries name more).Sublist (namesMatching entries name wanted) := by
  have hfilter : (entries.filter fun s => s.isMatch name more).Sublist
      (entries.filter fun s => s.isMatch name wanted) :=
    List.monotone_filter_right entries fun s => StreamEntry.isMatch_of_subset h
  exact hfilter.map StreamEntry.name

namespace Client

variable {c : Client} {n : Network}

lemma streams_eq (hn : n.Delivers c) (name : String) (wanted : Object) :
    c.streams name wanted n
      = ((n.nextReply.outcome (c.getRequest ["streams"]).url.path.text fun a =>
            a.decode (readRecords StreamEntry.read?)).map fun entries =>
              namesMatching entries name wanted,
          n.after [c.getRequest ["streams"]] n.replies.tail) := by
  have hstreams : c.streams name wanted n = _ :=
    Action.map_apply (c.fetch ["streams"] (readRecords StreamEntry.read?))
      (fun entries => namesMatching entries name wanted) n
  have hfetch : c.fetch ["streams"] (readRecords StreamEntry.read?) n = _ :=
    Request.ask_of_delivers hn (c.scheme_request .get ["streams"] "") (Answer.decode _)
  rw [hstreams, hfetch, getRequest]

lemma streams_eq_ok_iff (hn : n.Delivers c) {name : String} {wanted : Object}
    {names : List String} :
    (c.streams name wanted n).1 = .ok names ↔
      ∃ entries, n.nextReply.record? (readRecords StreamEntry.read?) = some entries ∧
        namesMatching entries name wanted = names := by
  rw [streams_eq hn]
  simp only [map_eq_ok, Reply.outcome_decode_eq_ok_iff]

/-- One request is made, whatever streams are looked for. -/
lemma sent_streams (hn : n.Delivers c) (name : String) (wanted : Object) :
    Action.sent (c.streams name wanted) n = [c.getRequest ["streams"]] := by
  rw [Action.sent, streams_eq hn]
  exact List.drop_left

end Client

/-- **Streams are found by parts of their names.** Names are compared in lower case. A part of a
name is then what is looked for exactly if it keeps its sigmas, whatever the case of ASCII
letters in what is looked for, and the stream is a match if its metadata has all of the wanted
members. Parts without capital sigmas keep them, and so do whole words. Of the streams that the
service lists, those that match are named, in its order, and more wanted members leave fewer of
them. -/
theorem streams_found_by_parts {c : Client} {n : Network} (hn : n.Delivers c) :
    (∀ (s : StreamEntry) (name : String) (wanted : Object), s.isMatch name wanted = true ↔
      lowercase name.toList <:+: lowercase s.name.toList ∧ s.Has wanted) ∧
    (∀ (s : StreamEntry) (front part back : List Char) (name : String) (wanted : Object),
      s.name.toList = front ++ part ++ back →
      name.toList.map Char.toLower = part.map Char.toLower →
      (lowerBetween front.reverse part back = lowercase name.toList ↔
        KeepsSigmas front part back) ∧
      (KeepsSigmas front part back → (s.isMatch name wanted = true ↔ s.Has wanted))) ∧
    (∀ front part back : List Char,
      '\u03a3' ∉ part ∨ startsCased front.reverse = false ∧ startsCased back = false →
      KeepsSigmas front part back) ∧
    ∀ (name : String) (wanted : Object),
      Action.sent (c.streams name wanted) n = [c.getRequest ["streams"]] ∧
      (∀ names, (c.streams name wanted n).1 = .ok names ↔
        ∃ entries, n.nextReply.record? (Client.readRecords StreamEntry.read?) = some entries ∧
          namesMatching entries name wanted = names) ∧
      ∀ (more : Object) (names : List String), wanted ⊆ more →
        (c.streams name wanted n).1 = .ok names →
        ∃ fewer, (c.streams name more n).1 = .ok fewer ∧ fewer.Sublist names := by
  refine ⟨fun s name wanted => StreamEntry.isMatch_eq_true_iff, ?_, ?_, fun name wanted =>
    ⟨Client.sent_streams hn name wanted, fun names => Client.streams_eq_ok_iff hn, ?_⟩⟩
  · intro s front part back name wanted hname hcase
    have hlower : lowercase name.toList = lowercase part := lowercase_eq_of_map_toLower_eq hcase
    refine ⟨hlower ▸ lowerBetween_eq_lowercase_iff, fun hkeeps => ?_⟩
    rw [StreamEntry.isMatch_eq_true_iff, hlower, hname]
    exact and_iff_right (StreamEntry.lowercase_of_keepsSigmas hkeeps)
  · rintro front part back (hfree | ⟨hfront, hback⟩)
    · exact .of_not_mem hfree
    · exact .of_words hfront hback
  · intro more names hmore hnames
    obtain ⟨entries, hentries, rfl⟩ := (Client.streams_eq_ok_iff hn).mp hnames
    exact ⟨_, (Client.streams_eq_ok_iff hn).mpr ⟨entries, hentries, rfl⟩,
      namesMatching_sublist hmore entries name⟩

/-- The name of an island. -/
def islandName : String := "\u03a3\u0391\u039c\u039f\u03a3"

/-- The stream of the weather there. -/
def islandEntry : StreamEntry := ⟨"WEATHER " ++ islandName, [("sea", .bool true)]⟩

/-- The streams that the service has, of which that is one. -/
def islandStreams : Json := .array [islandEntry.encode, .object [("name", .string "Heath")]]

/-- The reply that lists them. -/
def islandReply : Reply :=
  .answer ⟨200, [], "[\x7b\"name\":\"WEATHER " ++ islandName ++
    "\",\"meta\":\x7b\"sea\":true\x7d\x7d,\x7b\"name\":\"Heath\"\x7d]"⟩

theorem islandReply_searched :
    (Network.ofReplies [islandReply]).Delivers mountedClient ∧
      islandEntry.isMatch islandName [] = true ∧
      (mountedClient.streams "eAtH" [] (.ofReplies [islandReply])).1
        = .ok [islandEntry.name, "Heath"] ∧
      ∃ fewer, (mountedClient.streams "eAtH" islandEntry.metadata (.ofReplies [islandReply])).1
          = .ok fewer ∧ fewer.Sublist [islandEntry.name, "Heath"] := by
  have hn : (Network.ofReplies [islandReply]).Delivers mountedClient := ⟨rfl, .inl rfl, rfl⟩
  obtain ⟨-, hparts, hkeeps, hlisted⟩ := streams_found_by_parts hn
  obtain ⟨-, hnames, hfewer⟩ := hlisted "eAtH" []
  have hentries : islandReply.record? (Client.readRecords StreamEntry.read?)
      = some [islandEntry, ⟨"Heath", []⟩] :=
    Reply.record?_eq_some_iff.mpr ⟨_, rfl, by decide, Answer.decode_eq_ok rfl
      (Option.bind_eq_some_iff.mpr ⟨islandStreams.document, by rfl, by rfl⟩)⟩
  have hall := (hnames [islandEntry.name, "Heath"]).mpr ⟨_, hentries, by decide +kernel⟩
  have hword : KeepsSigmas "WEATHER ".toList islandName.toList [] :=
    hkeeps _ _ _ (.inr ⟨by decide +kernel, rfl⟩)
  obtain ⟨-, hfound⟩ :=
    hparts islandEntry "WEATHER ".toList islandName.toList [] islandName [] (by decide +kernel) rfl
  exact ⟨hn, (hfound hword).mpr (List.forall_mem_nil _), hall,
    hfewer _ _ (List.nil_subset _) hall⟩

/-- A name with two sigmas in a row. -/
def seaName : String := "\u0398\u0391\u039b\u0391\u03a3\u03a3\u0391"

/-- That name up to the first sigma. -/
def seaPart : String := "\u0398\u0391\u039b\u0391\u03a3"

/-- A stream is not found by the beginning of its name. -/
theorem seaName_not_found :
    seaPart.toList <+: seaName.toList ∧
      ¬ ((StreamEntry.mk seaName []).isMatch seaPart [] = true ↔
        (StreamEntry.mk seaName []).Has []) := by
  have hmissed : (StreamEntry.mk seaName []).isMatch seaPart [] = false := by decide +kernel
  refine ⟨by decide +kernel, fun h => ?_⟩
  rw [h.mpr (List.forall_mem_nil _)] at hmissed
  cases hmissed

end EventQuery
