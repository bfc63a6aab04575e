import EventQuery.Pattern.Encode
import EventQuery.Proofs.Literal.Equality

/-!
Stacks of wrappers around a pattern.

A pattern is a core inside any number of distances and widths. For the written
form only the timing counts that the stack adds up to: of each of the three
members `after`, `within` and `for` the outermost wrapper that sets it.

* `Pattern.core`, `Pattern.timing`: the two parts of a pattern.
* `CoreObject`: how the object of a core is put together.
* `encode_core_timing`: the object of a pattern has the members of its core and,
  under names that no core has, those of its timing.
-/

namespace EventQuery

/-- What a stack of wrappers sets. -/
structure Timing where
  after : Option Delta
  within : Option Delta
  min : Option Delta
  max : Option Delta

namespace Timing

/-- The timing of no wrapper. -/
def untimed : Timing := ⟨none, none, none, none⟩

/-- The timing with a distance around it: what the distance sets goes first. -/
def spaced (t : Timing) (after within : Option Delta) : Timing :=
  { t with after := after.or t.after, within := within.or t.within }

/-- The timing with a width around it: one without bounds sets nothing, any other
takes the place of both bounds. -/
def sized (t : Timing) : Option Delta → Option Delta → Timing
  | none, none => t
  | min, max => { t with min, max }

end Timing

namespace Pattern

/-- The pattern inside all wrappers. -/
def core : Pattern → Pattern
  | spacing p _ _ => p.core
  | width p _ _ => p.core
  | p => p

/-- What the wrappers of a pattern add up to. -/
def timing : Pattern → Timing
  | spacing p after within => p.timing.spaced after within
  | width p min max => p.timing.sized min max
  | _ => .untimed

/-- Whether a pattern is no wrapper. -/
def isCore : Pattern → Bool
  | spacing _ _ _ => false
  | width _ _ _ => false
  | _ => true

lemma core_of_isCore {p : Pattern} (h : p.isCore = true) : p.core = p := by
  cases p <;> first | rfl | cases h

lemma timing_of_isCore {p : Pattern} (h : p.isCore = true) : p.timing = .untimed := by
  cases p <;> first | rfl | cases h

/-- Induction over the wrappers of a pattern. -/
@[elab_as_elim]
theorem wrapper_ind {P : Pattern → Prop} (core : ∀ p, p.isCore = true → P p)
    (spacing : ∀ p after within, P p → P (.spacing p after within))
    (width : ∀ p min max, P p → P (.width p min max)) : ∀ p, P p
  | .spacing p after within => spacing p after within (wrapper_ind core spacing width p)
  | .width p min max => width p min max (wrapper_ind core spacing width p)
  | .condition _ => core _ rfl
  | .and _ _ => core _ rfl
  | .or _ _ => core _ rfl
  | .serial _ => core _ rfl
  | .parallel _ _ => core _ rfl
  | .switch _ _ => core _ rfl

end Pattern

/-! ### The object of a core -/

/-- How the object of a core is put together from the objects of its parts. -/
inductive CoreObject (cx : EncodeContext) : Pattern → Object → Prop where
  | unbound {path op x arg} : x.encode cx.numbers = .ok arg →
      CoreObject cx (.condition (.mk path op x none)) (comparisonObject path op arg)
  | hidden {path op x s arg} : cx.inSwitch = true → x.encode cx.numbers = .ok arg →
      CoreObject cx (.condition (.mk path op x (some s)))
        (comparisonObject path op arg ++ [spanMember])
  | bound {path op x s arg o} : cx.inSwitch = false → x.encode cx.numbers = .ok arg →
      s.encode cx = .ok o →
      CoreObject cx (.condition (.mk path op x (some s)))
        (comparisonObject path op arg ++ [("stream", .object o), spanMember])
  | and {l r o u} : l.encode cx = .ok o → r.encode cx = .ok u →
      CoreObject cx (.and l r) (booleanObject "&&" o u)
  | or {l r o u} : l.encode cx = .ok o → r.encode cx = .ok u →
      CoreObject cx (.or l r) (booleanObject "||" o u)
  | serial {ps os} : encodeParts cx ps = .ok os →
      CoreObject cx (.serial ps) (partsObject "serial" os)
  | parallel {kind ps os} : encodeParts cx ps = .ok os →
      CoreObject cx (.parallel kind ps) (partsObject kind.name os)
  | switch {s ps os} : encodeParts cx.enterSwitch ps = .ok os →
      CoreObject cx (.switch s ps) (switchObject s.name os)

/-- Every core is written in one of these ways. -/
lemma coreObject_of_encode {cx : EncodeContext} {p : Pattern} {o : Object}
    (hp : p.isCore = true) (h : p.encode cx = .ok o) : CoreObject cx p o := by
  cases p with
  | condition c =>
      obtain ⟨path, op, x, s | s⟩ := c
      · simp only [Pattern.encode, Condition.encode, bind_eq_ok, pure_eq_ok, Except.ok.injEq] at h
        obtain ⟨arg, harg, rfl⟩ := h
        exact .unbound harg
      · simp only [Pattern.encode, Condition.encode, bind_eq_ok] at h
        obtain ⟨arg, harg, h⟩ := h
        cases hcx : cx.inSwitch with
        | true =>
            simp only [hcx, if_true, pure_eq_ok, Except.ok.injEq] at h
            subst h
            exact .hidden hcx harg
        | false =>
            simp only [hcx, Bool.false_eq_true, if_false, bind_eq_ok, pure_eq_ok,
              Except.ok.injEq] at h
            obtain ⟨u, hu, rfl⟩ := h
            exact .bound hcx harg hu
  | and l r =>
      simp only [Pattern.encode, bind_eq_ok, pure_eq_ok, Except.ok.injEq] at h
      obtain ⟨u, hu, v, hv, rfl⟩ := h
      exact .and hu hv
  | or l r =>
      simp only [Pattern.encode, bind_eq_ok, pure_eq_ok, Except.ok.injEq] at h
      obtain ⟨u, hu, v, hv, rfl⟩ := h
      exact .or hu hv
  | serial ps =>
      simp only [Pattern.encode, bind_eq_ok, pure_eq_ok, Except.ok.injEq] at h
      obtain ⟨os, hos, rfl⟩ := h
      exact .serial hos
  | parallel kind ps =>
      simp only [Pattern.encode, bind_eq_ok, pure_eq_ok, Except.ok.injEq] at h
      obtain ⟨os, hos, rfl⟩ := h
      exact .parallel hos
  | spacing p after within => cases hp
  | width p min max => cases hp
  | switch s ps =>
      simp only [Pattern.encode, bind_eq_ok, pure_eq_ok, Except.ok.injEq] at h
      obtain ⟨os, hos, rfl⟩ := h
      exact .switch hos

/-- The names that wrappers use. -/
def timingNames : List String := ["after", "within", "for"]

/-- The names of a core are distinct, and wrappers use none of them. -/
lemma CoreObject.names {cx : EncodeContext} {p : Pattern} {o : Object} (h : CoreObject cx p o) :
    Fields.Distinct o ∧ ∀ key ∈ timingNames, Fields.find? key o = none := by
  cases h <;>
    simp [Fields.Distinct, Fields.names, Fields.find?, timingNames, comparisonObject, spanMember,
      booleanObject, partsObject, switchObject]

/-! ### The members of a timing -/

/-- The members that wrappers add. -/
structure TimingMembers where
  after : Option Json
  within : Option Json
  /-- The bounds of a width, empty if there is no width. -/
  bounds : Object

/-- The member that wrappers add under a name. -/
def TimingMembers.find? (m : TimingMembers) (key : String) : Option Json :=
  if key = "after" then m.after
  else if key = "within" then m.within
  else if key = "for" then (if m.bounds = [] then none else some (.object m.bounds))
  else none

/-- What a timing is written as. -/
structure Timing.WrittenAs (t : Timing) (m : TimingMembers) : Prop where
  after : Written Delta.encode t.after m.after
  within : Written Delta.encode t.within m.within
  bounds : encodeBounds t.min t.max = .ok m.bounds

lemma Written.or {α : Type} {encode : α → Except QueryError Json} {o o' : Option α}
    {j j' : Option Json} (h : Written encode o j) (h' : Written encode o' j') :
    Written encode (o.or o') (j.or j') := by
  rcases h.eq_none_or with ⟨rfl, rfl⟩ | ⟨a, v, rfl, rfl, ha⟩
  · exact h'
  · exact ha

/-- Setting an optional delta: its member goes first, all others stay. -/
lemma setDelta_eq_ok {key : String} {d : Option Delta} {o u : Object}
    (h : setDelta key d o = .ok u) :
    ∃ j, Written Delta.encode d j ∧ (Fields.Distinct o → Fields.Distinct u) ∧
      ∀ other, Fields.find? other u = ((if other = key then j else none).or
        (Fields.find? other o)) := by
  cases d with
  | none =>
      cases h
      exact ⟨none, trivial, id, by simp⟩
  | some d =>
      simp only [setDelta, bind_eq_ok, pure_eq_ok, Except.ok.injEq] at h
      obtain ⟨v, hv, rfl⟩ := h
      refine ⟨some v, hv, fun ho => Fields.distinct_insert ho key v, fun other => ?_⟩
      rw [Fields.find?_insert]
      split <;> simp

/-- The bounds of a width are the ones that are set. -/
lemma encodeBounds_eq_ok {min max : Option Delta} {bounds : Object}
    (h : encodeBounds min max = .ok bounds) :
    ∃ a b, Written Delta.encode min a ∧ Written Delta.encode max b ∧ Fields.Distinct bounds ∧
      ∀ key, Fields.find? key bounds
        = ((if key = "at-most" then b else none).or (if key = "at-least" then a else none)) := by
  simp only [encodeBounds, bind_eq_ok] at h
  obtain ⟨o, ho, h⟩ := h
  obtain ⟨a, ha, hadist, halook⟩ := setDelta_eq_ok ho
  obtain ⟨b, hb, hbdist, hblook⟩ := setDelta_eq_ok h
  refine ⟨a, b, ha, hb, hbdist (hadist (by simp [Fields.Distinct, Fields.names])), fun key => ?_⟩
  rw [hblook, halook, Fields.find?, Option.or_none]

/-- A width has no bounds if none is set. -/
lemma encodeBounds_eq_nil {min max : Option Delta} {bounds : Object}
    (h : encodeBounds min max = .ok bounds) : bounds = [] ↔ min = none ∧ max = none := by
  obtain ⟨a, b, ha, hb, -, hlook⟩ := encodeBounds_eq_ok h
  constructor
  · rintro rfl
    have hmin := hlook "at-least"
    have hmax := hlook "at-most"
    simp only [Fields.find?, String.reduceEq, if_true, if_false, Option.none_or] at hmin hmax
    rcases ha.eq_none_or with ⟨rfl, -⟩ | ⟨d, v, -, rfl, -⟩
    · rcases hb.eq_none_or with ⟨rfl, -⟩ | ⟨d, v, -, rfl, -⟩
      · exact ⟨rfl, rfl⟩
      · simp at hmax
    · cases hmin
  · rintro ⟨rfl, rfl⟩
    exact (Except.ok.inj h).symm

lemma Timing.sized_of_bound (t : Timing) {min max : Option Delta}
    (h : ¬ (min = none ∧ max = none)) : t.sized min max = { t with min, max } := by
  cases min <;> cases max <;> first | rfl | exact absurd ⟨rfl, rfl⟩ h

lemma setWidth_distinct {bounds o : Object} (h : Fields.Distinct o) :
    Fields.Distinct (setWidth bounds o) := by
  rw [setWidth]
  split
  · exact h
  · exact Fields.distinct_insert h _ _

lemma setWidth_find? (bounds o : Object) (key : String) :
    Fields.find? key (setWidth bounds o)
      = (if key = "for" ∧ bounds ≠ [] then some (.object bounds) else Fields.find? key o) := by
  rw [setWidth]
  by_cases hb : bounds = []
  · simp [hb]
  · simp [hb, Fields.find?_insert]

/-- **The object of a pattern** has the members of its core and those of its
timing, in some order. -/
theorem encode_core_timing {cx : EncodeContext} (p : Pattern) :
    ∀ {o}, p.encode cx = .ok o →
      ∃ u m, CoreObject cx p.core u ∧ p.timing.WrittenAs m ∧ Fields.Distinct o ∧
        ∀ key, Fields.find? key o = (m.find? key).or (Fields.find? key u) := by
  induction p using Pattern.wrapper_ind with
  | core p hp =>
      intro o h
      have hcore := coreObject_of_encode hp h
      refine ⟨o, ⟨none, none, []⟩, ?_, ?_, hcore.names.1, fun key => ?_⟩
      · rwa [Pattern.core_of_isCore hp]
      · rw [Pattern.timing_of_isCore hp]
        exact ⟨trivial, trivial, rfl⟩
      · simp [TimingMembers.find?]
  | spacing p after within ih =>
      intro o h
      simp only [Pattern.encode, bind_eq_ok] at h
      obtain ⟨v, hv, w, hw, ho⟩ := h
      obtain ⟨u, m, hcore, htiming, hdist, hlook⟩ := ih hv
      obtain ⟨a, ha, hadist, halook⟩ := setDelta_eq_ok hw
      obtain ⟨b, hb, hbdist, hblook⟩ := setDelta_eq_ok ho
      refine ⟨u, { m with after := a.or m.after, within := b.or m.within }, hcore,
        ⟨ha.or htiming.after, hb.or htiming.within, htiming.bounds⟩, hbdist (hadist hdist),
        fun key => ?_⟩
      rw [hblook, halook, hlook, TimingMembers.find?, TimingMembers.find?]
      by_cases hkey : key = "after"
      · simp [hkey, Option.or_assoc]
      · by_cases hkey' : key = "within"
        · simp [hkey', Option.or_assoc]
        · simp [hkey, hkey']
  | width p min max ih =>
      intro o h
      simp only [Pattern.encode, bind_eq_ok, pure_eq_ok, Except.ok.injEq] at h
      obtain ⟨v, hv, bounds, hbounds, rfl⟩ := h
      obtain ⟨u, m, hcore, htiming, hdist, hlook⟩ := ih hv
      by_cases hset : min = none ∧ max = none
      · have hnil : bounds = [] := (encodeBounds_eq_nil hbounds).mpr hset
        obtain ⟨rfl, rfl⟩ := hset
        refine ⟨u, m, hcore, htiming, setWidth_distinct hdist, fun key => ?_⟩
        rw [hnil, setWidth, if_pos rfl, hlook]
      · have hcons : bounds ≠ [] := fun h => hset ((encodeBounds_eq_nil hbounds).mp h)
        refine ⟨u, { m with bounds }, hcore, ?_, setWidth_distinct hdist, fun key => ?_⟩
        · rw [Pattern.timing, Timing.sized_of_bound _ hset]
          exact ⟨htiming.after, htiming.within, hbounds⟩
        · rw [setWidth_find?, hlook, TimingMembers.find?, TimingMembers.find?]
          by_cases hkey : key = "for"
          · simp [hkey, hcons]
          · simp [hkey]

end EventQuery
