import EventQuery.Binding
import Mathlib.Data.List.Basic

/-!
Induction over constraints and over patterns.

Both are trees with lists of subtrees, patterns also with streams that hold a
pattern as their filter. A property holds of every tree once it is inherited
from the parts.

* `Constraint.ind`: the parts are the alternatives, the collected constraints,
  or the constraints of the fields below.
* `Pattern.ind`: the parts are the patterns inside, and for a bound condition the
  filter of its stream. The filter of the stream of a switch is no part of it.
-/

namespace EventQuery

/-- A property of all constraints is shown from parts to wholes. -/
@[elab_as_elim]
theorem Constraint.ind {P : Constraint → Prop}
    (scalar : ∀ x, P (.scalar x))
    (comparison : ∀ c, P (.comparison c))
    (anyOf : ∀ cs : List Constraint, (∀ c ∈ cs, P c) → P (.anyOf cs))
    (allOf : ∀ cs : List Constraint, (∀ c ∈ cs, P c) → P (.allOf cs))
    (nested : ∀ fs : List (String × Constraint), (∀ e ∈ fs, P e.2) → P (.nested fs))
    (c : Constraint) : P c :=
  @Constraint.rec P (fun cs => ∀ c ∈ cs, P c) (fun fs => ∀ e ∈ fs, P e.2) (fun e => P e.2)
    scalar comparison anyOf allOf nested
    (List.forall_mem_nil P)
    (fun _ _ ihc ihcs => List.forall_mem_cons.mpr ⟨ihc, ihcs⟩)
    (List.forall_mem_nil fun e : String × Constraint => P e.2)
    (fun _ _ ihe ihfs => List.forall_mem_cons.mpr ⟨ihe, ihfs⟩)
    (fun _ _ ih => ih)
    c

/-- A property of all patterns is shown from parts to wholes. -/
@[elab_as_elim]
theorem Pattern.ind {P : Pattern → Prop}
    (unbound : ∀ path op x, P (.condition (.mk path op x none)))
    (bound : ∀ path op x s, (∀ f, s.filter? = some f → P f) →
      P (.condition (.mk path op x (some s))))
    (and : ∀ l r, P l → P r → P (.and l r))
    (or : ∀ l r, P l → P r → P (.or l r))
    (serial : ∀ ps : List Pattern, (∀ p ∈ ps, P p) → P (.serial ps))
    (parallel : ∀ kind, ∀ ps : List Pattern, (∀ p ∈ ps, P p) → P (.parallel kind ps))
    (spacing : ∀ p after within, P p → P (.spacing p after within))
    (width : ∀ p min max, P p → P (.width p min max))
    (switch : ∀ s, ∀ ps : List Pattern, (∀ p ∈ ps, P p) → P (.switch s ps))
    (p : Pattern) : P p :=
  @Pattern.rec P (fun c => P (.condition c)) (fun s => ∀ f, s.filter? = some f → P f)
    (fun ps => ∀ p ∈ ps, P p) (fun o => ∀ s, o = some s → ∀ f, s.filter? = some f → P f)
    (fun o => ∀ f, o = some f → P f)
    (fun _ ih => ih) and or serial parallel
    (fun p after within => spacing p after within)
    (fun p min max => width p min max)
    (fun s ps _ ih => switch s ps ih)
    (fun path op x o ih => by
      cases o with
      | none => exact unbound path op x
      | some s => exact bound path op x s (ih s rfl))
    (fun _ _ ih => ih)
    (List.forall_mem_nil P)
    (fun _ _ ihp ihps => List.forall_mem_cons.mpr ⟨ihp, ihps⟩)
    (fun s hs => absurd hs (by simp))
    (fun s ih t ht f hf => ih f (Option.some.inj ht ▸ hf))
    (fun f hf => absurd hf (by simp))
    (fun _ ih f hf => Option.some.inj hf ▸ ih)
    p

end EventQuery
