import EventQuery.Proofs.Pattern.Timing
import Mathlib.Data.List.Induction

/-!
Stacks of wrappers, member by member.

A wrapper sets up to two members of the object inside, each to the value of its own and
nothing merged with what was there. A stack of wrappers sets its members one after the other,
from the inside out.

* `Wrapper`, `Pattern.wrapped`: a wrapper without its inside, and a stack of them.
* `Setting`, `Wrapper.settings`: what a wrapper sets, under which names.
* `setMembers`: setting members one after the other; `encode_wrapped`: that is how a stack is
  written.
* `setMembers_append`, `names_setMembers`, `find?_setMembers_last`: the three facts on order,
  names and values.
* `wrappers_set_members`: what the object of a stack is, whatever the core.
-/

namespace EventQuery

/-! ### Wrappers -/

/-- A distance or a width, without the pattern inside. -/
inductive Wrapper where
  | spacing (after within : Option Delta)
  | width (min max : Option Delta)

/-- What a member is set to. -/
inductive Setting where
  | delta (value : Delta)
  | atLeast (min : Delta)
  | atMost (max : Delta)
  | between (min max : Delta)

/-- The value of a setting. -/
def Setting.encode : Setting → Except QueryError Json
  | delta d => d.encode
  | atLeast min => do return .object [("at-least", ← min.encode)]
  | atMost max => do return .object [("at-most", ← max.encode)]
  | between min max => do return .object [("at-least", ← min.encode), ("at-most", ← max.encode)]

/-- The deltas of a setting. -/
def Setting.deltas : Setting → List Delta
  | delta d => [d]
  | atLeast min => [min]
  | atMost max => [max]
  | between min max => [min, max]

namespace Wrapper

/-- The wrapper around a pattern. -/
def around (p : Pattern) : Wrapper → Pattern
  | spacing after within => .spacing p after within
  | width min max => .width p min max

/-- The deltas of a wrapper. -/
def deltas : Wrapper → List Delta
  | spacing after within => after.toList ++ within.toList
  | width min max => min.toList ++ max.toList

/-- What a wrapper sets, in order; one without deltas sets nothing. -/
def settings : Wrapper → Fields Setting
  | spacing after within =>
    (after.map fun d => ("after", .delta d)).toList ++
      (within.map fun d => ("within", .delta d)).toList
  | width none none => []
  | width (some min) none => [("for", .atLeast min)]
  | width none (some max) => [("for", .atMost max)]
  | width (some min) (some max) => [("for", .between min max)]

end Wrapper

/-- The pattern inside wrappers, the first of which is the innermost. -/
def Pattern.wrapped (p : Pattern) (ws : List Wrapper) : Pattern := ws.foldl Wrapper.around p

/-- What wrappers set, one after the other. -/
def settingsOf (ws : List Wrapper) : Fields Setting := ws.flatMap Wrapper.settings

/-- Sets members one after the other. -/
def setMembers (settings : Fields Setting) (o : Object) : Except QueryError Object :=
  settings.foldlM (fun o s => do return Fields.insert s.1 (← s.2.encode) o) o

/-! ### Setting members one after the other -/

section

variable {settings more : Fields Setting} {o u : Object}

lemma setMembers_cons (key : String) (s : Setting) (settings : Fields Setting) (o : Object) :
    setMembers ((key, s) :: settings) o = (do
      let v ← s.encode
      setMembers settings (Fields.insert key v o)) := by
  rw [setMembers, List.foldlM_cons, bind_assoc]
  rfl

lemma setMembers_concat (settings more : Fields Setting) (o : Object) :
    setMembers (settings ++ more) o = setMembers settings o >>= setMembers more :=
  List.foldlM_append

/-- Members are set if each of them has a value. -/
lemma exists_setMembers_iff (settings : Fields Setting) (o : Object) :
    (∃ u, setMembers settings o = .ok u) ↔ ∀ s ∈ settings, ∃ v, s.2.encode = .ok v := by
  induction settings generalizing o with
  | nil => exact ⟨fun _ => List.forall_mem_nil _, fun _ => ⟨o, rfl⟩⟩
  | cons s settings ih =>
      obtain ⟨key, s⟩ := s
      rw [setMembers_cons, List.forall_mem_cons]
      cases hs : s.encode with
      | error e => simp
      | ok v => simp [ih]

/-- Members that are not in front are set in what follows. -/
lemma setMembers_append (h : ∀ key ∈ Fields.names settings, key ∉ Fields.names u) (t : Object) :
    setMembers settings (u ++ t) = (do return u ++ (← setMembers settings t)) := by
  induction settings generalizing t with
  | nil => rfl
  | cons s settings ih =>
      obtain ⟨key, s⟩ := s
      rw [Fields.names_cons, List.forall_mem_cons] at h
      rw [setMembers_cons, setMembers_cons, bind_assoc]
      cases s.encode with
      | error e => rfl
      | ok v => rw [ok_bind, ok_bind, Fields.insert_append h.1, ih h.2]

/-- Members stand in the order in which they were first set. -/
lemma names_setMembers {t : Object} (h : setMembers settings [] = .ok t) :
    Fields.names t = (Fields.names settings).eraseDups := by
  induction settings using List.reverseRecOn generalizing t with
  | nil =>
      cases h
      rfl
  | append_singleton settings s ih =>
      obtain ⟨key, s⟩ := s
      rw [setMembers_concat, bind_eq_ok] at h
      obtain ⟨o, ho, h⟩ := h
      rw [setMembers_cons, bind_eq_ok] at h
      obtain ⟨v, -, h⟩ := h
      cases h
      have hmem : key ∈ Fields.names o ↔ key ∈ Fields.names settings := by
        rw [ih ho, List.mem_eraseDups]
      have hsplit : Fields.names (settings ++ [(key, s)]) = Fields.names settings ++ [key] := by
        rw [Fields.names, List.map_append]
        rfl
      rw [Fields.names_insert, hsplit, List.eraseDups_append, ← ih ho]
      by_cases hkey : key ∈ Fields.names settings
      · simp [hmem, hkey, List.removeAll]
      · simp [hmem, hkey, List.removeAll, List.eraseDups_cons]

/-- Members under other names do not touch a member. -/
lemma find?_setMembers_of_not_mem {key : String} (hkey : key ∉ Fields.names settings)
    (h : setMembers settings o = .ok u) : Fields.find? key u = Fields.find? key o := by
  induction settings generalizing o with
  | nil =>
      cases h
      rfl
  | cons s settings ih =>
      obtain ⟨other, s⟩ := s
      rw [Fields.names_cons, List.mem_cons, not_or] at hkey
      rw [setMembers_cons, bind_eq_ok] at h
      obtain ⟨v, -, h⟩ := h
      rw [ih hkey.2 h, Fields.find?_insert_of_ne hkey.1]

/-- **A member has the value that was set last.** -/
lemma find?_setMembers_last {key : String} {s : Setting} (hkey : key ∉ Fields.names more)
    (h : setMembers (settings ++ (key, s) :: more) o = .ok u) :
    ∃ v, s.encode = .ok v ∧ Fields.find? key u = some v := by
  rw [setMembers_concat, bind_eq_ok] at h
  obtain ⟨o', -, h⟩ := h
  rw [setMembers_cons, bind_eq_ok] at h
  obtain ⟨v, hv, h⟩ := h
  refine ⟨v, hv, ?_⟩
  rw [find?_setMembers_of_not_mem hkey h, Fields.find?_insert_self]

end

/-! ### Stacks -/

/-- A setting has a value if its deltas can be written. -/
lemma Setting.exists_encode_iff (s : Setting) :
    (∃ v, s.encode = .ok v) ↔ ∀ d ∈ s.deltas, ∃ v, d.encode = .ok v := by
  cases s with
  | delta d => simp [encode, deltas]
  | atLeast c => cases hc : c.encode <;> simp [encode, deltas, hc]
  | atMost d => cases hd : d.encode <;> simp [encode, deltas, hd]
  | between c d => cases hc : c.encode <;> cases hd : d.encode <;> simp [encode, deltas, hc, hd]

namespace Wrapper

/-- A wrapper is written by setting its members. -/
lemma encode_around (w : Wrapper) (p : Pattern) (cx : EncodeContext) :
    (w.around p).encode cx = p.encode cx >>= setMembers w.settings := by
  cases w with
  | spacing after within =>
      rw [around, Pattern.encode]
      congr 1
      funext o
      rcases after with _ | a <;> rcases within with _ | b
      · rfl
      · rw [settings]
        cases hb : b.encode <;> simp [setDelta, setMembers, Setting.encode, hb]
      · rw [settings]
        cases ha : a.encode <;> simp [setDelta, setMembers, Setting.encode, ha]
      · rw [settings]
        cases ha : a.encode <;> cases hb : b.encode <;>
          simp [setDelta, setMembers, Setting.encode, ha, hb]
  | width min max =>
      rw [around, Pattern.encode]
      congr 1
      funext o
      rcases min with _ | c <;> rcases max with _ | d
      · rfl
      · rw [settings]
        cases hd : d.encode <;>
          simp [encodeBounds, setDelta, setWidth, setMembers, Setting.encode, Fields.insert, hd]
      · rw [settings]
        cases hc : c.encode <;>
          simp [encodeBounds, setDelta, setWidth, setMembers, Setting.encode, Fields.insert, hc]
      · rw [settings]
        cases hc : c.encode <;> cases hd : d.encode <;>
          simp [encodeBounds, setDelta, setWidth, setMembers, Setting.encode, Fields.insert, hc, hd]

/-- The settings of a wrapper have its deltas. -/
lemma deltas_settings (w : Wrapper) : w.settings.flatMap (fun s => s.2.deltas) = w.deltas := by
  rcases w with ⟨_ | a, _ | b⟩ | ⟨_ | c, _ | d⟩ <;> rfl

/-- What a wrapper sets has values if its deltas can be written. -/
lemma forall_settings_iff (w : Wrapper) :
    (∀ s ∈ w.settings, ∃ v, s.2.encode = .ok v) ↔ ∀ d ∈ w.deltas, ∃ v, d.encode = .ok v := by
  simp only [Setting.exists_encode_iff, ← w.deltas_settings, List.mem_flatMap]
  exact ⟨fun h d ⟨s, hs, hd⟩ => h s hs d hd, fun h s hs d hd => h d ⟨s, hs, hd⟩⟩

/-- Wrappers set the members of a timing. -/
lemma names_settings (w : Wrapper) : Fields.names w.settings ⊆ timingNames := by
  rcases w with ⟨_ | a, _ | b⟩ | ⟨_ | c, _ | d⟩ <;>
    simp [settings, Fields.names, timingNames]

/-- A wrapper sets no member twice. -/
lemma distinct_settings (w : Wrapper) : Fields.Distinct w.settings := by
  rcases w with ⟨_ | a, _ | b⟩ | ⟨_ | c, _ | d⟩ <;>
    simp [settings, Fields.Distinct, Fields.names]

end Wrapper

lemma settingsOf_append (ws more : List Wrapper) :
    settingsOf (ws ++ more) = settingsOf ws ++ settingsOf more := List.flatMap_append

lemma names_settingsOf (ws : List Wrapper) : Fields.names (settingsOf ws) ⊆ timingNames := by
  intro key hkey
  rw [Fields.names, settingsOf, List.map_flatMap, List.mem_flatMap] at hkey
  obtain ⟨w, -, hkey⟩ := hkey
  exact w.names_settings hkey

/-- What the last wrapper sets under a name is set last. -/
lemma settingsOf_eq_append_cons {w : Wrapper} {key : String} {s : Setting} {later : List Wrapper}
    (hs : (key, s) ∈ w.settings) (hlater : key ∉ Fields.names (settingsOf later))
    (before : List Wrapper) :
    ∃ front rest, settingsOf (before ++ w :: later) = front ++ (key, s) :: rest ∧
      key ∉ Fields.names rest := by
  obtain ⟨front, rest, hw⟩ := List.append_of_mem hs
  have hdist := w.distinct_settings
  rw [hw, Fields.Distinct, Fields.names, List.map_append, List.map_cons] at hdist
  have hrest : key ∉ Fields.names rest := (List.nodup_cons.mp hdist.of_append_right).1
  refine ⟨settingsOf before ++ front, rest ++ settingsOf later, ?_, ?_⟩
  · rw [settingsOf_append, settingsOf, settingsOf, List.flatMap_cons, hw]
    simp [settingsOf]
  · rw [Fields.names, List.map_append, List.mem_append, not_or]
    exact ⟨hrest, hlater⟩

/-- **A stack of wrappers is written** by writing the pattern inside and setting what they set,
one after the other. -/
theorem encode_wrapped (p : Pattern) (ws : List Wrapper) (cx : EncodeContext) :
    (p.wrapped ws).encode cx = p.encode cx >>= setMembers (settingsOf ws) := by
  induction ws generalizing p with
  | nil =>
      change p.encode cx = p.encode cx >>= setMembers []
      cases p.encode cx <;> rfl
  | cons w ws ih =>
      calc (p.wrapped (w :: ws)).encode cx
          = (w.around p).encode cx >>= setMembers (settingsOf ws) := ih (w.around p)
        _ = p.encode cx >>= setMembers w.settings >>= setMembers (settingsOf ws) := by
            rw [w.encode_around]
        _ = p.encode cx >>= setMembers (settingsOf (w :: ws)) := by
            rw [bind_assoc]
            congr 1
            funext o
            exact (setMembers_concat w.settings (settingsOf ws) o).symm

/-- **Wrappers set members, and nothing else.** A stack of wrappers can be written if its core
and all its deltas can, those that are set again included. Its object is that of the core,
which has none of the members that wrappers set, and behind it these members in the order in
which they were first set, each with the value of the last wrapper that sets it. -/
theorem wrappers_set_members {p : Pattern} (hp : p.isCore = true) (cx : EncodeContext)
    (ws : List Wrapper) :
    ((∃ o, (p.wrapped ws).encode cx = .ok o) ↔
      (∃ u, p.encode cx = .ok u) ∧ ∀ w ∈ ws, ∀ d ∈ w.deltas, ∃ v, d.encode = .ok v) ∧
    ∀ u o, p.encode cx = .ok u → (p.wrapped ws).encode cx = .ok o →
      (∀ key ∈ timingNames, key ∉ Fields.names u) ∧
      ∃ t, o = u ++ t ∧ Fields.names t ⊆ timingNames ∧
        Fields.names t = (Fields.names (settingsOf ws)).eraseDups ∧
        ∀ before w later key s, ws = before ++ w :: later → (key, s) ∈ w.settings →
          key ∉ Fields.names (settingsOf later) →
            ∃ v, s.encode = .ok v ∧ Fields.find? key t = some v := by
  have hdeltas : (∀ s ∈ settingsOf ws, ∃ v, s.2.encode = .ok v)
      ↔ ∀ w ∈ ws, ∀ d ∈ w.deltas, ∃ v, d.encode = .ok v := by
    simp only [← Wrapper.forall_settings_iff, settingsOf, List.mem_flatMap]
    exact ⟨fun h w hw s hs => h s ⟨w, hw, hs⟩, fun h s ⟨w, hw, hs⟩ => h w hw s hs⟩
  rw [encode_wrapped]
  refine ⟨?_, fun u o hu ho => ?_⟩
  · cases hu : p.encode cx with
    | error e => simp
    | ok u =>
        rw [ok_bind, exists_setMembers_iff, hdeltas]
        exact ⟨fun h => ⟨⟨u, rfl⟩, h⟩, fun h => h.2⟩
  · have hfree : ∀ key ∈ timingNames, key ∉ Fields.names u := fun key hkey =>
      Fields.find?_eq_none_iff.mp ((coreObject_of_encode hp hu).names.2 key hkey)
    have hsettings : ∀ key ∈ Fields.names (settingsOf ws), key ∉ Fields.names u := fun key hkey =>
      hfree key (names_settingsOf ws hkey)
    rw [hu, ok_bind, ← List.append_nil u, setMembers_append hsettings, bind_eq_ok] at ho
    obtain ⟨t, ht, ho⟩ := ho
    cases ho
    have hnames := names_setMembers ht
    refine ⟨hfree, t, rfl, ?_, hnames, ?_⟩
    · intro key hkey
      rw [hnames, List.mem_eraseDups] at hkey
      exact names_settingsOf ws hkey
    · rintro before w later key s rfl hs hlater
      obtain ⟨front, rest, hsplit, hrest⟩ := settingsOf_eq_append_cons hs hlater before
      rw [hsplit] at ht
      exact find?_setMembers_last hrest ht

/-- A delta of some days. -/
def daysDelta (days : Int) : Delta := Delta.empty.set .days (.ofInt days)

/-- Two widths and two distances with an empty width between them; the outer ones set again
what the inner ones set. -/
def restackedWrappers : List Wrapper :=
  [.width (some (daysDelta 1)) none, .spacing (some (daysDelta 2)) (some (daysDelta 3)),
    .width none none, .spacing (some (daysDelta 4)) none, .width none (some (daysDelta 5))]

theorem restackedCondition_members :
    let p : Pattern := .condition (.mk ["event", "x"] .eq (.bool true) none)
    p.isCore = true ∧ ∃ u t, p.encode (.top .double) = .ok u ∧
      (p.wrapped restackedWrappers).encode (.top .double) = .ok (u ++ t) ∧
      Fields.names t = ["for", "after", "within"] ∧
      Fields.find? "after" t = some (.object [("days", .integer 4)]) ∧
      Fields.find? "for" t = some (.object [("at-most", .object [("days", .integer 5)])]) := by
  intro p
  have hp : p.isCore = true := rfl
  have hset := (wrappers_set_members hp (.top .double) restackedWrappers).2 _ _ rfl rfl
  obtain ⟨-, t, ho, -, hnames, hlast⟩ := hset
  obtain ⟨v, hv, hafter⟩ := hlast (restackedWrappers.take 3) (.spacing (some (daysDelta 4)) none)
    [.width none (some (daysDelta 5))] "after" (.delta (daysDelta 4)) rfl (by simp [Wrapper.settings])
    (by decide)
  obtain ⟨w, hw, hfor⟩ := hlast (restackedWrappers.take 4) (.width none (some (daysDelta 5))) []
    "for" (.atMost (daysDelta 5)) rfl (by simp [Wrapper.settings]) (by decide)
  cases hv
  cases hw
  exact ⟨hp, _, t, rfl, congrArg Except.ok ho, hnames, hafter, hfor⟩

end EventQuery
