import EventQuery.Proofs.Binding.Failure
import EventQuery.Proofs.Fields
import EventQuery.Proofs.Json.Subvalues

/-!
How shapes are made, and that no name occurs twice in what is made.

A shape is made by setting one field after the other, from pairs, or from a JSON object; the
constraints in it are made in the same ways. A name that is set again keeps its place, so names
stay distinct in every shape inside, at any depth.

* `Constraint.IsDistinct`: the names are distinct in every shape inside a constraint.
* `ofJson_induction`: what holds of whatever is read from JSON once it is inherited from the
  members of objects.
* `Constraint.Built`, `Shape.Built`: what the operations make.
* `Shape.Built.isDistinct`: its names are distinct.
-/

namespace EventQuery

/-! ### Constraints with distinct names -/

namespace Constraint

/-- No name occurs twice in a shape inside a constraint. -/
def IsDistinct (c : Constraint) : Prop := ∀ fs, .nested fs ∈ c.parts → Fields.Distinct fs

lemma isDistinct_scalar (x : Scalar) : (scalar x).IsDistinct := by
  simp [IsDistinct, parts]

lemma isDistinct_comparison (c : Comparison) : (comparison c).IsDistinct := by
  simp [IsDistinct, parts]

lemma isDistinct_anyOf {cs : List Constraint} :
    (anyOf cs).IsDistinct ↔ ∀ c ∈ cs, c.IsDistinct := by
  simp only [IsDistinct, parts, constraintParts_eq_flatMap, List.mem_cons, reduceCtorEq, false_or,
    List.mem_flatMap]
  constructor
  · exact fun h c hc fs hfs => h fs ⟨c, hc, hfs⟩
  · rintro h fs ⟨c, hc, hfs⟩
    exact h c hc fs hfs

lemma isDistinct_allOf {cs : List Constraint} :
    (allOf cs).IsDistinct ↔ ∀ c ∈ cs, c.IsDistinct := by
  simp only [IsDistinct, parts, constraintParts_eq_flatMap, List.mem_cons, reduceCtorEq, false_or,
    List.mem_flatMap]
  constructor
  · exact fun h c hc fs hfs => h fs ⟨c, hc, hfs⟩
  · rintro h fs ⟨c, hc, hfs⟩
    exact h c hc fs hfs

lemma isDistinct_nested {fs : Fields Constraint} :
    (nested fs).IsDistinct ↔ Fields.Distinct fs ∧ ∀ e ∈ fs, e.2.IsDistinct := by
  simp only [IsDistinct, parts, fieldParts_eq_flatMap, List.mem_cons, nested.injEq,
    List.mem_flatMap]
  constructor
  · exact fun h => ⟨h fs (.inl rfl), fun e he gs hgs => h gs (.inr ⟨e, he, hgs⟩)⟩
  · rintro ⟨hfs, hall⟩ gs (rfl | ⟨e, he, hgs⟩)
    · exact hfs
    · exact hall e he gs hgs

end Constraint

/-! ### What is read from JSON -/

/-- Members are read one by one, each under its own name. -/
lemma fieldsOfJson_eq_ok {ms : Object} {fs : Fields Constraint} :
    fieldsOfJson ms = .ok fs ↔
      List.Forall₂ (fun m e => m.1 = e.1 ∧ Constraint.ofJson m.2 = .ok e.2) ms fs := by
  induction ms generalizing fs with
  | nil => rw [fieldsOfJson, Except.ok.injEq, List.forall₂_nil_left_iff, eq_comm]
  | cons m ms ih =>
      simp only [fieldsOfJson, bind_eq_ok, pure_eq_ok, Except.ok.injEq, ih,
        List.forall₂_cons_left_iff]
      constructor
      · rintro ⟨c, hc, gs, hgs, rfl⟩
        exact ⟨(m.1, c), gs, ⟨rfl, hc⟩, hgs, rfl⟩
      · rintro ⟨⟨key, c⟩, gs, ⟨rfl, hc⟩, hgs, rfl⟩
        exact ⟨c, hc, gs, hgs, rfl⟩

/-- **Induction over what is read**: a relation between documents and constraints holds of
whatever is read, once it holds of literals and passes from members to objects. -/
theorem ofJson_induction {R : Json → Constraint → Prop}
    (literal : ∀ v x, Scalar.ofJson v = .ok x → R v (.scalar x))
    (object : ∀ ms fs, List.Forall₂ (fun m e => m.1 = e.1 ∧ R m.2 e.2) ms fs →
      R (.object ms) (.nested fs)) (v : Json) :
    ∀ c, Constraint.ofJson v = .ok c → R v c := by
  induction v using Json.ind with
  | object ms ih =>
      intro c hc
      simp only [Constraint.ofJson, bind_eq_ok, pure_eq_ok, Except.ok.injEq] at hc
      obtain ⟨fs, hfs, rfl⟩ := hc
      have hread := (List.forall₂_and_left _ _).mpr ⟨ih, fieldsOfJson_eq_ok.mp hfs⟩
      exact object ms fs (hread.imp fun m e h => ⟨h.2.1, h.1 e.2 h.2.2⟩)
  | _ =>
      intro c hc
      simp only [Constraint.ofJson, bind_eq_ok, pure_eq_ok, Except.ok.injEq] at hc
      obtain ⟨x, hx, rfl⟩ := hc
      exact literal _ x hx

/-- A JSON object is read as a shape if its members are read. -/
lemma Shape.ofJson_eq_ok {v : Json} {s : Shape} (h : ofJson v = .ok s) :
    ∃ ms, v = .object ms ∧ fieldsOfJson ms = .ok s.fields := by
  cases v with
  | object ms =>
      simp only [ofJson, bind_eq_ok, pure_eq_ok, Except.ok.injEq] at h
      obtain ⟨fs, hfs, rfl⟩ := h
      exact ⟨ms, rfl, hfs⟩
  | _ => cases h

/-- An object without repeated names is read as constraints with distinct names. -/
lemma isDistinct_of_ofJson {v : Json} {c : Constraint} (h : Constraint.ofJson v = .ok c) :
    v.HasDistinctNames → c.IsDistinct := by
  refine ofJson_induction (R := fun v c => v.HasDistinctNames → c.IsDistinct) ?_ ?_ v c h
  · exact fun v x _ _ => Constraint.isDistinct_scalar x
  · intro ms fs hread hv
    obtain ⟨hms, hall⟩ := Json.hasDistinctNames_object.mp hv
    have hnames : Fields.names ms = Fields.names fs :=
      map_eq_of_forall₂ (hread.imp fun m e h => h.1)
    have hvalues := (List.forall₂_and_left _ _).mpr ⟨hall, hread⟩
    refine Constraint.isDistinct_nested.mpr ⟨?_, ?_⟩
    · rwa [Fields.Distinct, ← hnames]
    · exact forall_mem_of_forall₂ (hvalues.imp fun m e h => h.2.2 h.1)

/-! ### What the operations make -/

mutual

/-- The constraints that the operations make. -/
inductive Constraint.Built : Constraint → Prop where
  | scalar (x : Scalar) : (Constraint.scalar x).Built
  | comparison (c : Comparison) : (Constraint.comparison c).Built
  | anyOf {cs : List Constraint} : (∀ c ∈ cs, c.Built) → (Constraint.anyOf cs).Built
  | allOf {cs : List Constraint} : (∀ c ∈ cs, c.Built) → (Constraint.allOf cs).Built
  | nest {s : Shape} : s.Built → s.nest.Built
  | ofJson {v : Json} {c : Constraint} :
      v.HasDistinctNames → Constraint.ofJson v = .ok c → c.Built

/-- The shapes that the operations make: from nothing by setting fields, from pairs, or from
JSON, whose objects have no name twice. -/
inductive Shape.Built : Shape → Prop where
  | empty : Shape.empty.Built
  | insert {s : Shape} (key : String) {c : Constraint} :
      s.Built → c.Built → (s.insert key c).Built
  | ofList {entries : List (String × Constraint)} :
      (∀ e ∈ entries, e.2.Built) → (Shape.ofList entries).Built
  | ofJson {v : Json} {s : Shape} : v.HasDistinctNames → Shape.ofJson v = .ok s → s.Built

end

mutual

/-- No name occurs twice in a constraint that was made by the operations. -/
lemma Constraint.Built.isDistinct : ∀ {c : Constraint}, c.Built → c.IsDistinct
  | _, .scalar x => Constraint.isDistinct_scalar x
  | _, .comparison c => Constraint.isDistinct_comparison c
  | _, .anyOf hcs => Constraint.isDistinct_anyOf.mpr fun c hc => (hcs c hc).isDistinct
  | _, .allOf hcs => Constraint.isDistinct_allOf.mpr fun c hc => (hcs c hc).isDistinct
  | _, .nest hs => hs.isDistinct
  | _, .ofJson hv h => isDistinct_of_ofJson h hv

/-- No name occurs twice in a shape that was made by the operations, at any depth. -/
lemma Shape.Built.isDistinct : ∀ {s : Shape}, s.Built → s.nest.IsDistinct
  | _, .empty => Constraint.isDistinct_nested.mpr ⟨List.nodup_nil, List.forall_mem_nil _⟩
  | _, .insert key hs hc => by
      obtain ⟨hfs, hall⟩ := Constraint.isDistinct_nested.mp hs.isDistinct
      refine Constraint.isDistinct_nested.mpr ⟨Fields.distinct_insert hfs key _, fun e he => ?_⟩
      rcases Fields.mem_insert he with rfl | he
      · exact hc.isDistinct
      · exact hall e he
  | _, .ofList hentries => Constraint.isDistinct_nested.mpr ⟨Fields.distinct_ofList _,
      fun e he => (hentries e (Fields.mem_ofList he)).isDistinct⟩
  | _, .ofJson hv h => by
      obtain ⟨ms, rfl, hfs⟩ := Shape.ofJson_eq_ok h
      exact isDistinct_of_ofJson (by rw [Constraint.ofJson, hfs, Shape.nest]; rfl) hv

end

end EventQuery
