import EventQuery.Proofs.Binding.Meaning

/-!
When binding a shape fails.

The only things that cannot be bound are constraints that say nothing: a shape without
fields, and a choice or a collection of no constraints. Literals play no part. Binding fails
at the first of them, depth first and in order.

* `Constraint.parts`, `Shape.parts`: the constraints inside a constraint, in that order.
* `Constraint.vacancy?`: the complaint about a constraint that says nothing;
  `Constraint.IsFilled`: there is none inside, so that binding succeeds (`Shape.exists_bind_iff`).
* `FailsAtVacancy`: a computation fails exactly if one of some constraints says nothing, with
  the complaint about the first one.
* `bind_failsWithFirst`: what binding passes on from parts to wholes.
* `bind_fails_at_vacancy`: shapes and switches are bound like that, as filters and as patterns
  of a stream.
-/

namespace EventQuery

/-! ### Constraints that say nothing -/

mutual

/-- The constraints inside a constraint, which comes first itself. -/
def Constraint.parts : Constraint → List Constraint
  | .scalar x => [.scalar x]
  | .comparison c => [.comparison c]
  | .anyOf cs => .anyOf cs :: constraintParts cs
  | .allOf cs => .allOf cs :: constraintParts cs
  | .nested fs => .nested fs :: fieldParts fs

/-- The constraints inside some constraints on one field. -/
def constraintParts : List Constraint → List Constraint
  | [] => []
  | c :: cs => c.parts ++ constraintParts cs

/-- The constraints inside the constraints of fields. -/
def fieldParts : List (String × Constraint) → List Constraint
  | [] => []
  | (_, c) :: fs => c.parts ++ fieldParts fs

end

lemma constraintParts_eq_flatMap (cs : List Constraint) :
    constraintParts cs = cs.flatMap Constraint.parts := by
  induction cs with
  | nil => rfl
  | cons c cs ih => rw [constraintParts, ih, List.flatMap_cons]

lemma fieldParts_eq_flatMap (fs : List (String × Constraint)) :
    fieldParts fs = fs.flatMap fun e => e.2.parts := by
  induction fs with
  | nil => rfl
  | cons e fs ih => rw [fieldParts, ih, List.flatMap_cons]

/-- The constraints inside a shape, the shape itself among them. -/
def Shape.parts (s : Shape) : List Constraint := s.nest.parts

namespace Constraint

/-- The complaint about a constraint that says nothing. -/
def vacancy? : Constraint → Option QueryError
  | nested [] => some .emptyShape
  | anyOf [] => some (.emptyCombinator .anyOf)
  | allOf [] => some (.emptyCombinator .allOf)
  | _ => none

/-- A shape has no fields, or there is nothing to choose from or to collect. -/
def IsVacant (c : Constraint) : Prop := c = nested [] ∨ c = anyOf [] ∨ c = allOf []

lemma isVacant_iff {c : Constraint} : c.IsVacant ↔ ∃ e, c.vacancy? = some e := by
  rcases c with x | c | ⟨_ | ⟨c, cs⟩⟩ | ⟨_ | ⟨c, cs⟩⟩ | ⟨_ | ⟨e, fs⟩⟩ <;> simp [IsVacant, vacancy?]

/-- There are three complaints. -/
lemma vacancy?_eq_some {c : Constraint} {e : QueryError} (h : c.vacancy? = some e) :
    e = .emptyShape ∨ e = .emptyCombinator .anyOf ∨ e = .emptyCombinator .allOf := by
  rcases c with x | c | ⟨_ | ⟨c, cs⟩⟩ | ⟨_ | ⟨c, cs⟩⟩ | ⟨_ | ⟨d, fs⟩⟩ <;> simp_all [vacancy?]

/-- No constraint inside says nothing. -/
def IsFilled (c : Constraint) : Prop := ∀ d ∈ c.parts, ¬ d.IsVacant

lemma isFilled_scalar (x : Scalar) : (scalar x).IsFilled := by
  simp [IsFilled, parts, IsVacant]

lemma isFilled_comparison (c : Comparison) : (comparison c).IsFilled := by
  simp [IsFilled, parts, IsVacant]

lemma isFilled_anyOf {cs : List Constraint} :
    (anyOf cs).IsFilled ↔ cs ≠ [] ∧ ∀ c ∈ cs, c.IsFilled := by
  simp only [IsFilled, parts, IsVacant, constraintParts_eq_flatMap, List.forall_mem_cons,
    List.forall_mem_flatMap, anyOf.injEq, reduceCtorEq, or_false, false_or, ne_eq]

lemma isFilled_allOf {cs : List Constraint} :
    (allOf cs).IsFilled ↔ cs ≠ [] ∧ ∀ c ∈ cs, c.IsFilled := by
  simp only [IsFilled, parts, IsVacant, constraintParts_eq_flatMap, List.forall_mem_cons,
    List.forall_mem_flatMap, allOf.injEq, reduceCtorEq, false_or, ne_eq]

lemma isFilled_nested {fs : Fields Constraint} :
    (nested fs).IsFilled ↔ fs ≠ [] ∧ ∀ e ∈ fs, e.2.IsFilled := by
  simp only [IsFilled, parts, IsVacant, fieldParts_eq_flatMap, List.forall_mem_cons,
    List.forall_mem_flatMap, nested.injEq, reduceCtorEq, or_false, ne_eq]

end Constraint

/-- A computation fails exactly if one of these constraints says nothing, with the complaint
about the first one; combining what there is never fails by itself. -/
structure FailsAtVacancy {α : Type} (x : Except QueryError α) (cs : List Constraint) : Prop where
  fails : (∃ e, x = .error e) ↔ ∃ c ∈ cs, c.IsVacant
  first : ∀ e, x = .error e ↔ cs.findSome? Constraint.vacancy? = some e
  complaint : ∀ e, x = .error e →
    e = .emptyShape ∨ e = .emptyCombinator .anyOf ∨ e = .emptyCombinator .allOf

/-- It succeeds exactly if every one of them says something. -/
lemma FailsAtVacancy.succeeds {α : Type} {x : Except QueryError α} {cs : List Constraint}
    (h : FailsAtVacancy x cs) : (∃ a, x = .ok a) ↔ ∀ c ∈ cs, ¬ c.IsVacant := by
  have hfails := h.fails
  cases x with
  | ok a => simpa using hfails
  | error e => simpa using hfails

/-- The complaints about some constraints, in order. -/
def vacancies (cs : List Constraint) : List QueryError := cs.filterMap Constraint.vacancy?

lemma vacancies_append (cs ds : List Constraint) :
    vacancies (cs ++ ds) = vacancies cs ++ vacancies ds := List.filterMap_append

/-- A constraint that says something has the complaints about what is inside. -/
lemma vacancies_cons {c : Constraint} (h : c.vacancy? = none) (cs : List Constraint) :
    vacancies (c :: cs) = vacancies cs := List.filterMap_cons_none h

/-- Failing with the first complaint is failing at the first constraint that says nothing. -/
lemma FailsWithFirst.failsAtVacancy {α : Type} {x : Except QueryError α} {cs : List Constraint}
    (h : FailsWithFirst x (vacancies cs)) : FailsAtVacancy x cs := by
  have hfirst : ∀ e, x = .error e ↔ cs.findSome? Constraint.vacancy? = some e := by
    intro e
    rw [h e, vacancies, List.head?_filterMap]
  refine ⟨?_, hfirst, fun e he => ?_⟩
  · calc (∃ e, x = .error e)
        ↔ ∃ e, cs.findSome? Constraint.vacancy? = some e := exists_congr hfirst
      _ ↔ (cs.findSome? Constraint.vacancy?).isSome = true := Option.isSome_iff_exists.symm
      _ ↔ ∃ c ∈ cs, c.vacancy?.isSome = true := by rw [List.findSome?_isSome_iff]
      _ ↔ ∃ c ∈ cs, c.IsVacant := by simp only [Option.isSome_iff_exists, Constraint.isVacant_iff]
  · obtain ⟨c, -, hc⟩ := List.exists_of_findSome?_eq_some ((hfirst e).mp he)
    exact Constraint.vacancy?_eq_some hc

/-! ### Binding by combining -/

section

variable {stream : Option Stream} {path : List String}

/-- Alternatives are bound one by one and then combined. -/
lemma bind_anyOf (c : Constraint) (cs : List Constraint) :
    (Constraint.anyOf (c :: cs)).bind stream path
      = bindConstraints stream path (c :: cs) >>= Pattern.disj := by
  rw [Constraint.bind, bindConstraints]
  cases c.bind stream path <;> cases bindConstraints stream path cs <;> rfl

/-- Collected constraints are bound one by one and then combined. -/
lemma bind_allOf (c : Constraint) (cs : List Constraint) :
    (Constraint.allOf (c :: cs)).bind stream path
      = bindConstraints stream path (c :: cs) >>= Pattern.conj := by
  rw [Constraint.bind, bindConstraints]
  cases c.bind stream path <;> cases bindConstraints stream path cs <;> rfl

/-- Fields are bound one by one and then combined. -/
lemma bind_nested (e : String × Constraint) (fs : List (String × Constraint)) :
    (Constraint.nested (e :: fs)).bind stream path
      = bindFields stream path (e :: fs) >>= Pattern.conj := by
  rw [Constraint.bind, bindFields]
  cases e.2.bind stream (path ++ [e.1]) <;> cases bindFields stream path fs <;> rfl

/-- Combining some patterns does not fail. -/
lemma conj_failsWithFirst {ps : List Pattern} (h : ps ≠ []) :
    FailsWithFirst (Pattern.conj ps) [] := by
  cases ps with
  | nil => exact absurd rfl h
  | cons p ps => exact .ok _

lemma disj_failsWithFirst {ps : List Pattern} (h : ps ≠ []) :
    FailsWithFirst (Pattern.disj ps) [] := by
  cases ps with
  | nil => exact absurd rfl h
  | cons p ps => exact .ok _

lemma bindConstraints_failsWithFirst {cs : List Constraint}
    (h : ∀ c ∈ cs, FailsWithFirst (c.bind stream path) (vacancies c.parts)) :
    FailsWithFirst (bindConstraints stream path cs) (vacancies (constraintParts cs)) := by
  induction cs with
  | nil => exact .ok _
  | cons c cs ih =>
      obtain ⟨hc, hcs⟩ := List.forall_mem_cons.mp h
      rw [bindConstraints, constraintParts, vacancies_append]
      exact hc.bind fun p _ => (ih hcs).map _

lemma bindFields_failsWithFirst {fs : List (String × Constraint)}
    (h : ∀ e ∈ fs, FailsWithFirst (e.2.bind stream (path ++ [e.1])) (vacancies e.2.parts)) :
    FailsWithFirst (bindFields stream path fs) (vacancies (fieldParts fs)) := by
  induction fs with
  | nil => exact .ok _
  | cons e fs ih =>
      obtain ⟨he, hfs⟩ := List.forall_mem_cons.mp h
      rw [bindFields, fieldParts, vacancies_append]
      exact he.bind fun p _ => (ih hfs).map _

end

/-- Some items of a list of which each has a result have some results. -/
lemma ne_nil_of_forall₂ {α β : Type} {R : α → β → Prop} {a : α} {as : List α} {bs : List β}
    (h : List.Forall₂ R (a :: as) bs) : bs ≠ [] := by
  cases h
  exact List.cons_ne_nil _ _

/-- **Binding fails with the first complaint** about the constraints inside. -/
lemma bind_failsWithFirst (stream : Option Stream) (c : Constraint) :
    ∀ path, FailsWithFirst (c.bind stream path) (vacancies c.parts) := by
  induction c using Constraint.ind with
  | scalar x => exact fun path => .ok _
  | comparison c => exact fun path => .ok _
  | anyOf cs ih =>
      intro path
      cases cs with
      | nil => exact .error _
      | cons c cs =>
          have hparts := bindConstraints_failsWithFirst fun d hd => ih d hd path
          rw [bind_anyOf, Constraint.parts, vacancies_cons rfl, ← List.append_nil (vacancies _)]
          exact hparts.bind fun ps hps =>
            disj_failsWithFirst (ne_nil_of_forall₂ (bindConstraints_eq_ok hps))
  | allOf cs ih =>
      intro path
      cases cs with
      | nil => exact .error _
      | cons c cs =>
          have hparts := bindConstraints_failsWithFirst fun d hd => ih d hd path
          rw [bind_allOf, Constraint.parts, vacancies_cons rfl, ← List.append_nil (vacancies _)]
          exact hparts.bind fun ps hps =>
            conj_failsWithFirst (ne_nil_of_forall₂ (bindConstraints_eq_ok hps))
  | nested fs ih =>
      intro path
      cases fs with
      | nil => exact .error _
      | cons e fs =>
          have hparts := bindFields_failsWithFirst fun d hd => ih d hd (path ++ [d.1])
          rw [bind_nested, Constraint.parts, vacancies_cons rfl, ← List.append_nil (vacancies _)]
          exact hparts.bind fun ps hps =>
            conj_failsWithFirst (ne_nil_of_forall₂ (bindFields_eq_ok hps))

/-! ### Shapes and switches -/

lemma Shape.bind_eq_bind_nest (stream : Option Stream) (s : Shape) :
    s.bind stream = s.nest.bind stream [eventRoot] := by
  rw [Shape.bind, Shape.nest, Constraint.bind]

lemma Shape.bind_failsWithFirst (stream : Option Stream) (s : Shape) :
    FailsWithFirst (s.bind stream) (vacancies s.parts) := by
  rw [s.bind_eq_bind_nest]
  exact EventQuery.bind_failsWithFirst stream s.nest [eventRoot]

/-- A shape is bound exactly if it says something and all that is inside does. -/
lemma Shape.exists_bind_iff {stream : Option Stream} {s : Shape} :
    (∃ p, s.bind stream = .ok p) ↔ s.nest.IsFilled :=
  (s.bind_failsWithFirst stream).failsAtVacancy.succeeds

/-- States are bound one after the other. -/
lemma mapM_bind_failsWithFirst (stream : Option Stream) (states : List Shape) :
    FailsWithFirst (states.mapM (Shape.bind stream)) (vacancies (states.flatMap Shape.parts)) := by
  induction states with
  | nil => exact .ok _
  | cons s states ih =>
      rw [List.mapM_cons, List.flatMap_cons, vacancies_append]
      exact (s.bind_failsWithFirst stream).bind fun p _ => ih.map _

/-- A switch is bound by binding its states. -/
lemma Stream.bind_switch (t : Stream) (sw : Switch) :
    t.bind (.switch sw) = (do return .switch t (← sw.states.mapM (Shape.bind (some t)))) := rfl

lemma Stream.bind_switch_eq_error {t : Stream} {sw : Switch} {e : QueryError} :
    t.bind (.switch sw) = .error e ↔ sw.states.mapM (Shape.bind (some t)) = .error e := by
  rw [bind_switch]
  cases sw.states.mapM (Shape.bind (some t)) <;> simp

/-- **Binding fails exactly at constraints that say nothing.** A filter, a filtered stream and
the pattern of a shape or of a switch fail exactly if a shape inside has no fields or an
`any_of` or `all_of` inside is empty, with the complaint about the first of them; a switch
fails with its first state that does, and otherwise has one pattern for each state. Whatever
is combined is combined as `conj` and `disj` do it, and neither of them is met with nothing
to combine. -/
theorem bind_fails_at_vacancy (s : Shape) (t : Stream) (sw : Switch) :
    FailsAtVacancy (filterPattern s) s.parts ∧
    FailsAtVacancy (t.filtered s) s.parts ∧
    FailsAtVacancy (t.bind (.shape s)) s.parts ∧
    FailsAtVacancy (t.bind (.switch sw)) (sw.states.flatMap Shape.parts) ∧
    (∀ e, t.bind (.switch sw) = .error e ↔
      ∃ before state later, sw.states = before ++ state :: later ∧
        (∀ earlier ∈ before, ∃ p, t.bind (.shape earlier) = .ok p) ∧
        t.bind (.shape state) = .error e) ∧
    (∀ p, t.bind (.switch sw) = .ok p ↔
      ∃ ps, p = .switch t ps ∧
        List.Forall₂ (fun state q => t.bind (.shape state) = .ok q) sw.states ps) ∧
    ∀ stream path c cs e fs,
      (Constraint.anyOf (c :: cs)).bind stream path
        = bindConstraints stream path (c :: cs) >>= Pattern.disj ∧
      (Constraint.allOf (c :: cs)).bind stream path
        = bindConstraints stream path (c :: cs) >>= Pattern.conj ∧
      (Constraint.nested (e :: fs)).bind stream path
        = bindFields stream path (e :: fs) >>= Pattern.conj := by
  refine ⟨(s.bind_failsWithFirst none).failsAtVacancy,
    ((s.bind_failsWithFirst none).map _).failsAtVacancy,
    (s.bind_failsWithFirst (some t)).failsAtVacancy,
    ((mapM_bind_failsWithFirst (some t) sw.states).map _).failsAtVacancy, fun e => ?_, fun p => ?_,
    fun stream path c cs e fs => ⟨bind_anyOf c cs, bind_allOf c cs, bind_nested e fs⟩⟩
  · rw [Stream.bind_switch_eq_error]
    exact mapM_eq_error
  · rw [Stream.bind_switch, bind_eq_ok]
    simp only [mapM_eq_ok, pure_eq_ok, Except.ok.injEq]
    constructor
    · rintro ⟨ps, hps, rfl⟩
      exact ⟨ps, rfl, hps⟩
    · rintro ⟨ps, rfl, hps⟩
      exact ⟨ps, hps, rfl⟩

/-- The first empty place decides, however deep it is; a literal that is no number does
not. -/
example : filterPattern ⟨[("a", .scalar (.double (.nonFinite .nan))),
    ("b", .allOf [.nested [("c", .anyOf []), ("d", .nested [])]]), ("e", .nested [])]⟩
      = .error (.emptyCombinator .anyOf) := rfl

end EventQuery
