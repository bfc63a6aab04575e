import EventQuery.Proofs.Induction
import EventQuery.Proofs.Pattern.Timing

/-!
The normal form of a pattern.

What a pattern is written as does not show how its wrappers are stacked, nor,
inside a switch, which streams its conditions are bound to, nor the filter of
the stream of a switch. The normal form leaves out just that.

* `Pattern.normal`: the core in normal form inside at most one distance and at
  most one width, with streams reduced inside a switch.
* `Pattern.normal_normal`: a normal form is its own.
* `Timing.wrap_equal`: two of them are equal if cores and timings are.
* `Pattern.mark`: what tells cores of different kinds apart.
-/

namespace EventQuery

/-- The pattern with a distance around it, unless that would set nothing. -/
def Pattern.spacedBy (p : Pattern) : Option Delta → Option Delta → Pattern
  | none, none => p
  | after, within => .spacing p after within

/-- The pattern with a width around it, unless that would set nothing. -/
def Pattern.sizedBy (p : Pattern) : Option Delta → Option Delta → Pattern
  | none, none => p
  | min, max => .width p min max

/-- The pattern with at most one distance and at most one width that set what a
timing sets. -/
def Timing.wrap (t : Timing) (p : Pattern) : Pattern :=
  (p.spacedBy t.after t.within).sizedBy t.min t.max

namespace Stream

/-- Stands for the stream of a bound condition inside a switch. -/
def anyBound : Stream := named ""

end Stream

mutual

/-- The core of a pattern with its parts in normal form. -/
def Pattern.normalCore (inSwitch : Bool) : Pattern → Pattern
  | .condition c => .condition (c.normal inSwitch)
  | .and l r =>
    .and (l.timing.wrap (l.normalCore inSwitch)) (r.timing.wrap (r.normalCore inSwitch))
  | .or l r =>
    .or (l.timing.wrap (l.normalCore inSwitch)) (r.timing.wrap (r.normalCore inSwitch))
  | .serial parts => .serial (normalParts inSwitch parts)
  | .parallel kind parts => .parallel kind (normalParts inSwitch parts)
  | .spacing p _ _ => p.normalCore inSwitch
  | .width p _ _ => p.normalCore inSwitch
  | .switch s states => .switch (.named s.name) (normalParts true states)

/-- The normal forms of a list of patterns. -/
def normalParts (inSwitch : Bool) : List Pattern → List Pattern
  | [] => []
  | p :: ps => p.timing.wrap (p.normalCore inSwitch) :: normalParts inSwitch ps

/-- The normal form of a condition: inside a switch it only counts whether it is
bound. -/
def Condition.normal (inSwitch : Bool) : Condition → Condition
  | .mk path op x none => .mk path op x none
  | .mk path op x (some s) => .mk path op x (some (if inSwitch then .anyBound else s.normal))

/-- The stream with its filter in normal form. -/
def Stream.normal : Stream → Stream
  | .mk name none => .mk name none
  | .mk name (some f) => .mk name (some (f.timing.wrap (f.normalCore false)))

end

/-- The normal form of a pattern, in a switch or not. -/
def Pattern.normal (inSwitch : Bool) (p : Pattern) : Pattern :=
  p.timing.wrap (p.normalCore inSwitch)

namespace Pattern

lemma normalCore_core (inSwitch : Bool) (p : Pattern) :
    p.core.normalCore inSwitch = p.normalCore inSwitch := by
  induction p using wrapper_ind with
  | core p hp => rw [core_of_isCore hp]
  | spacing p after within ih => rw [core, ih, normalCore]
  | width p min max ih => rw [core, ih, normalCore]

lemma isCore_normalCore (inSwitch : Bool) (p : Pattern) :
    (p.normalCore inSwitch).isCore = true := by
  induction p using wrapper_ind with
  | core p hp => cases p <;> first | (rw [normalCore]; rfl) | cases hp
  | spacing p after within ih => rwa [normalCore]
  | width p min max ih => rwa [normalCore]

end Pattern

/-! ### Normal forms stay as they are -/

namespace Timing

lemma core_wrap {p : Pattern} (hp : p.isCore = true) (t : Timing) : (t.wrap p).core = p := by
  obtain ⟨_ | a, _ | w, _ | m, _ | n⟩ := t <;> exact Pattern.core_of_isCore hp

lemma timing_wrap {p : Pattern} (hp : p.isCore = true) (t : Timing) : (t.wrap p).timing = t := by
  have hcore := Pattern.timing_of_isCore hp
  obtain ⟨_ | a, _ | w, _ | m, _ | n⟩ := t <;>
    simp [wrap, Pattern.spacedBy, Pattern.sizedBy, Pattern.timing, spaced, sized, hcore, untimed]

end Timing

namespace Pattern

/-- A pattern in normal form stays if its core does. -/
lemma normal_of_normalCore {inSwitch : Bool} {p : Pattern}
    (h : (p.normalCore inSwitch).normalCore inSwitch = p.normalCore inSwitch) :
    (p.normal inSwitch).normal inSwitch = p.normal inSwitch := by
  have hcore := isCore_normalCore inSwitch p
  have hwrap : (p.normal inSwitch).normalCore inSwitch = p.normalCore inSwitch := by
    rw [normal, ← normalCore_core, Timing.core_wrap hcore, h]
  rw [normal, hwrap, normal, Timing.timing_wrap hcore]

lemma normalParts_normalParts {inSwitch : Bool} {ps : List Pattern}
    (h : ∀ p ∈ ps, (p.normal inSwitch).normal inSwitch = p.normal inSwitch) :
    normalParts inSwitch (normalParts inSwitch ps) = normalParts inSwitch ps := by
  induction ps with
  | nil => simp [normalParts]
  | cons p ps ih =>
      obtain ⟨hp, hps⟩ := List.forall_mem_cons.mp h
      rw [normalParts, ← normal, normalParts, ← normal, hp, ih hps]

lemma normalCore_normalCore (p : Pattern) : ∀ inSwitch,
    (p.normalCore inSwitch).normalCore inSwitch = p.normalCore inSwitch := by
  induction p using Pattern.ind with
  | unbound path op x =>
      intro inSwitch
      rw [normalCore, Condition.normal, normalCore, Condition.normal]
  | bound path op x s ih =>
      intro inSwitch
      have hstream : s.normal.normal = s.normal := by
        obtain ⟨name, f | f⟩ := s
        · rw [Stream.normal, Stream.normal]
        · have hfilter := normal_of_normalCore (ih f rfl false)
          rw [Stream.normal, ← normal, Stream.normal, ← normal, hfilter]
      cases inSwitch <;> simp [normalCore, Condition.normal, hstream]
  | and l r ihl ihr =>
      intro inSwitch
      rw [normalCore, ← normal, ← normal, normalCore, ← normal, ← normal,
        normal_of_normalCore (ihl inSwitch), normal_of_normalCore (ihr inSwitch)]
  | or l r ihl ihr =>
      intro inSwitch
      rw [normalCore, ← normal, ← normal, normalCore, ← normal, ← normal,
        normal_of_normalCore (ihl inSwitch), normal_of_normalCore (ihr inSwitch)]
  | serial ps ih =>
      intro inSwitch
      rw [normalCore, normalCore,
        normalParts_normalParts fun p hp => normal_of_normalCore (ih p hp inSwitch)]
  | parallel kind ps ih =>
      intro inSwitch
      rw [normalCore, normalCore,
        normalParts_normalParts fun p hp => normal_of_normalCore (ih p hp inSwitch)]
  | spacing p after within ih =>
      intro inSwitch
      rw [normalCore, ih]
  | width p min max ih =>
      intro inSwitch
      rw [normalCore, ih]
  | switch s ps ih =>
      intro inSwitch
      rw [normalCore, normalCore,
        normalParts_normalParts fun p hp => normal_of_normalCore (ih p hp true)]
      rfl

/-- **A normal form is its own normal form.** -/
theorem normal_normal (inSwitch : Bool) (p : Pattern) :
    (p.normal inSwitch).normal inSwitch = p.normal inSwitch :=
  normal_of_normalCore (p.normalCore_normalCore inSwitch)

end Pattern

/-! ### Equality of wrapped patterns -/

namespace Pattern

lemma equal_spacing_of_ne {p : Pattern} (hp : ∀ r a w, p ≠ .spacing r a w) (q : Pattern)
    (b v : Option Delta) : p.equal (.spacing q b v) = false ∧
      (Pattern.spacing q b v).equal p = false := by
  cases p with
  | spacing r a w => exact absurd rfl (hp r a w)
  | _ => simp [equal]

lemma equal_width_of_ne {p : Pattern} (hp : ∀ r a b, p ≠ .width r a b) (q : Pattern)
    (c d : Option Delta) : p.equal (.width q c d) = false ∧
      (Pattern.width q c d).equal p = false := by
  cases p with
  | width r a b => exact absurd rfl (hp r a b)
  | _ => simp [equal]

lemma spacedBy_equal {p q : Pattern} (hp : ∀ r a w, p ≠ .spacing r a w)
    (hq : ∀ r a w, q ≠ .spacing r a w) (a w a' w' : Option Delta) :
    (p.spacedBy a w).equal (q.spacedBy a' w')
      = (p.equal q && Delta.equalOption a a' && Delta.equalOption w w') := by
  rcases a with _ | a <;> rcases w with _ | w <;> rcases a' with _ | a' <;>
    rcases w' with _ | w' <;>
    simp [spacedBy, equal, Delta.equalOption, equal_spacing_of_ne hp, equal_spacing_of_ne hq]

lemma sizedBy_equal {p q : Pattern} (hp : ∀ r a b, p ≠ .width r a b)
    (hq : ∀ r a b, q ≠ .width r a b) (a b a' b' : Option Delta) :
    (p.sizedBy a b).equal (q.sizedBy a' b')
      = (p.equal q && Delta.equalOption a a' && Delta.equalOption b b') := by
  rcases a with _ | a <;> rcases b with _ | b <;> rcases a' with _ | a' <;>
    rcases b' with _ | b' <;>
    simp [sizedBy, equal, Delta.equalOption, equal_width_of_ne hp, equal_width_of_ne hq]

lemma ne_spacing_of_isCore {p : Pattern} (hp : p.isCore = true) (r : Pattern)
    (a w : Option Delta) : p ≠ .spacing r a w := by
  rintro rfl
  cases hp

lemma spacedBy_ne_width {p : Pattern} (hp : p.isCore = true) (a w : Option Delta) (r : Pattern)
    (b c : Option Delta) : p.spacedBy a w ≠ .width r b c := by
  intro h
  rcases a with _ | a <;> rcases w with _ | w
  · rw [spacedBy] at h
    subst h
    cases hp
  all_goals cases h

end Pattern

/-- Two timings set equal deltas. -/
def Timing.equal (t u : Timing) : Bool :=
  Delta.equalOption t.after u.after && Delta.equalOption t.within u.within &&
    (Delta.equalOption t.min u.min && Delta.equalOption t.max u.max)

/-- Wrapped cores are equal if the cores and the timings are. -/
lemma Timing.wrap_equal {p q : Pattern} (hp : p.isCore = true) (hq : q.isCore = true)
    (t u : Timing) : (t.wrap p).equal (u.wrap q) = (p.equal q && t.equal u) := by
  rw [wrap, wrap, Pattern.sizedBy_equal (Pattern.spacedBy_ne_width hp _ _)
    (Pattern.spacedBy_ne_width hq _ _), Pattern.spacedBy_equal (Pattern.ne_spacing_of_isCore hp)
    (Pattern.ne_spacing_of_isCore hq), Timing.equal]
  simp only [Bool.and_assoc]

/-! ### Telling cores apart -/

/-- What tells the core of a pattern from others: the type or the boolean operator
it is written with, and none for an unbound condition. -/
def Pattern.mark : Pattern → Option String
  | .condition (.mk _ _ _ none) => none
  | .condition (.mk _ _ _ (some _)) => some "span"
  | .and _ _ => some "&&"
  | .or _ _ => some "||"
  | .serial _ => some "serial"
  | .parallel kind _ => some kind.name
  | .spacing p _ _ => p.mark
  | .width p _ _ => p.mark
  | .switch _ _ => some "switch"

lemma Pattern.mark_normalCore (inSwitch : Bool) (p : Pattern) :
    (p.normalCore inSwitch).mark = p.mark := by
  induction p using wrapper_ind with
  | core p hp =>
      cases p with
      | condition c =>
          obtain ⟨path, op, x, s | s⟩ := c <;> simp [normalCore, Condition.normal, mark]
      | spacing p after within => cases hp
      | width p min max => cases hp
      | _ => simp [normalCore, mark]
  | spacing p after within ih => rwa [normalCore]
  | width p min max ih => rwa [normalCore]

lemma Condition.mark_of_equal {c d : Condition} (h : c.equal d = true) :
    (Pattern.condition c).mark = (Pattern.condition d).mark := by
  obtain ⟨path, op, x, s | s⟩ := c <;> obtain ⟨path', op', x', s' | s'⟩ := d <;>
    simp_all [equal, Pattern.mark]

/-- Equal cores have the same mark. -/
lemma Pattern.mark_of_equal {p q : Pattern} (hp : p.isCore = true)
    (h : p.equal q = true) : p.mark = q.mark := by
  cases p <;> cases q <;> simp only [equal] at h <;>
    first | exact Condition.mark_of_equal h | simp_all [mark, isCore]

end EventQuery
