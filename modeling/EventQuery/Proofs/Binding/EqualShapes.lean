import EventQuery.Proofs.Shape.Equality

/-!
Equal shapes mean the same query.

Equality of shapes does not see the order of fields, nor the difference between `0.0` and
`-0.0`, and both show in the pattern that a shape is bound to. What the pattern asks for is the
same: each of the properties below holds of equal literals and passes along matchings of fields.

* `Valuation.RespectsEqual`: assignments that do not distinguish equal literals;
  `Constraint.truth_eq_of_equal`: under them equal constraints are true of the same events.
* `Constraint.leaves_of_equal`: equal constraints have the same leaves, up to equal literals and
  the order.
* `Constraint.isFilled_iff_of_equal`: both say something everywhere or none does.
* `equal_shapes_mean_the_same`: equality of shapes that the operations make, and what equal ones
  are bound to.
-/

namespace EventQuery

/-! ### Truth -/

/-- Equal literals are not distinguished. -/
def Valuation.RespectsEqual (v : Valuation) : Prop :=
  ∀ path op {x y : Scalar}, x.equal y = true → v path op x = v path op y

/-- Fields are as they must be if each of them is. -/
lemma fieldsTrue_iff {v : Valuation} {path : List String} {fs : Fields Constraint} :
    fieldsTrue v path fs = true ↔ ∀ e ∈ fs, e.2.truth v (path ++ [e.1]) = true := by
  induction fs with
  | nil => simp [fieldsTrue]
  | cons e fs ih => rw [fieldsTrue, Bool.and_eq_true, ih, List.forall_mem_cons]

/-- Equal constraints are true of the same events. -/
lemma Constraint.truth_eq_of_equal {v : Valuation} (hv : v.RespectsEqual) {c d : Constraint}
    (hc : c.IsDistinct) (h : c.equal d = true) : ∀ path, c.truth v path = d.truth v path := by
  have hmap : ∀ {cs ds : List Constraint} (path : List String),
      List.Forall₂ (fun c d => ∀ path, c.truth v path = d.truth v path) cs ds →
        cs.map (Constraint.truth v path) = ds.map (Constraint.truth v path) :=
    fun path hcs => map_eq_of_forall₂ (hcs.imp fun c d hcd => hcd path)
  refine equal_induction (R := fun c d => ∀ path, c.truth v path = d.truth v path)
    ?_ ?_ ?_ ?_ ?_ c hc d h
  · intro x y hxy path
    exact hv path .eq hxy
  · intro a b hab path
    rw [Comparison.equal, Bool.and_eq_true, beq_iff_eq] at hab
    rw [truth, truth, hab.1]
    exact hv path b.op hab.2
  · intro cs ds hcs path
    rw [truth, truth, anyTrue_eq, anyTrue_eq, hmap path hcs]
  · intro cs ds hcs path
    rw [truth, truth, allTrue_eq, allTrue_eq, hmap path hcs]
  · intro fs gs _ hfs path
    rw [truth, truth, Bool.eq_iff_iff, fieldsTrue_iff, fieldsTrue_iff]
    exact hfs.forall_iff fun key c d hcd => by rw [hcd]

/-! ### Leaves -/

/-- Two leaves at one place with equal comparisons. -/
def Leaf.AsksSame (a b : Leaf) : Prop := a.path = b.path ∧ a.test.equal b.test = true

/-- Two conditions of one stream on one field, with one operator and equal literals. -/
structure Condition.AsksSame (c d : Condition) : Prop where
  path : c.path = d.path
  op : c.op = d.op
  operand : c.operand.equal d.operand = true
  stream : c.stream? = d.stream?

lemma Leaf.AsksSame.under {a b : Leaf} (h : a.AsksSame b) (key : String) :
    (a.under key).AsksSame (b.under key) := ⟨congrArg (key :: ·) h.1, h.2⟩

lemma Leaf.AsksSame.condition {a b : Leaf} (h : a.AsksSame b) (stream : Option Stream)
    (path : List String) : (a.condition stream path).AsksSame (b.condition stream path) := by
  obtain ⟨hpath, htest⟩ := h
  rw [Comparison.equal, Bool.and_eq_true, beq_iff_eq] at htest
  exact ⟨congrArg (path ++ ·) hpath, htest.1, htest.2, rfl⟩

/-- The leaves of two constraints are the same, up to equal literals and the order. -/
def Constraint.SameLeaves (c d : Constraint) : Prop :=
  Multiset.Rel Leaf.AsksSame (Multiset.ofList c.leaves) (Multiset.ofList d.leaves)

/-- Equal constraints have the same leaves. -/
lemma Constraint.leaves_of_equal {c d : Constraint} (hc : c.IsDistinct)
    (h : c.equal d = true) : c.SameLeaves d := by
  have hone : ∀ {a b : Comparison}, a.equal b = true →
      Multiset.Rel Leaf.AsksSame (Multiset.ofList [⟨[], a⟩]) (Multiset.ofList [⟨[], b⟩]) :=
    fun hab => .cons ⟨rfl, hab⟩ .zero
  have hlist : ∀ {cs ds : List Constraint}, List.Forall₂ SameLeaves cs ds →
      Multiset.Rel Leaf.AsksSame (Multiset.ofList (constraintLeaves cs))
        (Multiset.ofList (constraintLeaves ds)) := by
    intro cs ds hcs
    induction hcs with
    | nil => exact .zero
    | cons hc _ ih =>
        rw [constraintLeaves, constraintLeaves, ← Multiset.coe_add, ← Multiset.coe_add]
        exact hc.add ih
  refine equal_induction ?_ ?_ hlist hlist ?_ c hc d h
  · intro x y hxy
    exact hone (by simpa [Comparison.equal] using hxy)
  · exact hone
  · intro fs gs _ hfs
    rw [SameLeaves, leaves, leaves, fieldLeaves_eq_flatMap, fieldLeaves_eq_flatMap,
      ← Multiset.coe_bind, ← Multiset.coe_bind]
    refine Multiset.rel_bind ?_ hfs
    rintro ⟨key, c⟩ ⟨_, d⟩ ⟨rfl, hcd⟩
    show Multiset.Rel Leaf.AsksSame (Multiset.ofList (c.leaves.map (Leaf.under key)))
      (Multiset.ofList (d.leaves.map (Leaf.under key)))
    rw [← Multiset.map_coe, ← Multiset.map_coe, Multiset.rel_map]
    exact hcd.mono fun a _ b _ hab => hab.under key

/-! ### Constraints that say nothing -/

/-- Equal constraints say something everywhere, or none of them does. -/
lemma Constraint.isFilled_iff_of_equal {c d : Constraint} (hc : c.IsDistinct)
    (h : c.equal d = true) : c.IsFilled ↔ d.IsFilled := by
  refine equal_induction (R := fun c d => c.IsFilled ↔ d.IsFilled) ?_ ?_ ?_ ?_ ?_ c hc d h
  · exact fun _ => iff_of_true (isFilled_scalar _) (isFilled_scalar _)
  · exact fun _ => iff_of_true (isFilled_comparison _) (isFilled_comparison _)
  · intro cs ds hcs
    rw [isFilled_anyOf, isFilled_anyOf, ne_eq, ne_eq, ← List.length_eq_zero_iff, hcs.length_eq,
      List.length_eq_zero_iff, forall_mem_congr_of_forall₂ hcs]
  · intro cs ds hcs
    rw [isFilled_allOf, isFilled_allOf, ne_eq, ne_eq, ← List.length_eq_zero_iff, hcs.length_eq,
      List.length_eq_zero_iff, forall_mem_congr_of_forall₂ hcs]
  · intro fs gs _ hfs
    rw [isFilled_nested, isFilled_nested, ne_eq, ne_eq, ← List.length_eq_zero_iff, hfs.length_eq,
      List.length_eq_zero_iff]
    exact and_congr_right fun _ => hfs.forall_iff fun key c d hcd => hcd

/-! ### Patterns -/

/-- Two patterns made by `and` and `or` that have the same conditions, up to equal literals and
the order, and are true under the same assignments that do not distinguish equal literals. -/
structure Pattern.MeansSame (p q : Pattern) : Prop where
  leaves : Multiset.Rel Condition.AsksSame (Multiset.ofList p.leaves) (Multiset.ofList q.leaves)
  truth : ∀ v : Valuation, v.RespectsEqual → ∃ b, p.truth? v = some b ∧ q.truth? v = some b

/-- Equal constraints on one field are bound to patterns that mean the same. -/
lemma Constraint.meansSame_of_equal {c d : Constraint} (hc : c.IsDistinct)
    (h : c.equal d = true) {stream : Option Stream} {path : List String} {p q : Pattern}
    (hp : c.bind stream path = .ok p) (hq : d.bind stream path = .ok q) : p.MeansSame q where
  leaves := by
    rw [leaves_of_bind hp, leaves_of_bind hq, ← Multiset.map_coe, ← Multiset.map_coe,
      Multiset.rel_map]
    exact (leaves_of_equal hc h).mono fun a _ b _ hab => hab.condition stream path
  truth v hv :=
    ⟨_, truth?_of_bind v hp, by rw [truth?_of_bind v hq, truth_eq_of_equal hv hc h]⟩

/-! ### Shapes -/

/-- Equal shapes are bound to patterns that mean the same, or none of them is bound. -/
lemma Shape.bind_of_equal {s t : Shape} (hs : s.Built) (h : s.equal t = true)
    (stream : Option Stream) :
    ((∃ p, s.bind stream = .ok p) ↔ ∃ q, t.bind stream = .ok q) ∧
      ∀ p q, s.bind stream = .ok p → t.bind stream = .ok q → p.MeansSame q := by
  rw [Shape.equal_eq_equal_nest] at h
  refine ⟨?_, fun p q hp hq => ?_⟩
  · rw [Shape.exists_bind_iff, Shape.exists_bind_iff]
    exact Constraint.isFilled_iff_of_equal hs.isDistinct h
  · rw [Shape.bind_eq_bind_nest] at hp hq
    exact Constraint.meansSame_of_equal hs.isDistinct h hp hq

/-- A tap that is open, though nothing flows: the state is set twice. -/
def openTap : Shape :=
  .ofList [("open", .scalar (.bool false)), ("flow", .scalar (.double (.finite (.zero false)))),
    ("open", .scalar (.bool true))]

/-- The same, field by field in another order and with another zero. -/
def openedTap : Shape :=
  (Shape.empty.insert "flow" (.scalar (.double (.finite (.zero true))))).insert "open"
    (.scalar (.bool true))

/-- A tap in one of no states, with a flow of which nothing is known. -/
def unknownTap : Shape := (Shape.empty.insert "open" (.anyOf [])).insert "flow" Shape.empty.nest

/-- The same in another order. -/
def tapUnknown : Shape := (Shape.empty.insert "flow" Shape.empty.nest).insert "open" (.anyOf [])

lemma openTap_built : openTap.Built :=
  .ofList (by simp [Constraint.Built.scalar])

lemma openedTap_built : openedTap.Built :=
  .insert "open" (.insert "flow" .empty (.scalar _)) (.scalar _)

lemma unknownTap_built : unknownTap.Built :=
  .insert "flow" (.insert "open" .empty (.anyOf (List.forall_mem_nil _))) (.nest .empty)

lemma tapUnknown_built : tapUnknown.Built :=
  .insert "open" (.insert "flow" .empty (.nest .empty)) (.anyOf (List.forall_mem_nil _))

/-- **Equal shapes mean the same query.** In a shape that the operations make no name occurs
twice: a name that is set again keeps its place and has the new constraint. Equality of such
shapes is symmetric and transitive, does not see the order of fields at any depth, and goes
through choices and collections position by position. If two shapes are equal, one is bound to a
stream exactly if the other is, and the patterns have the same conditions up to equal literals
and the order, and are true under the same assignments. They need not be equal as trees, nor are
the errors the same where neither is bound. -/
theorem equal_shapes_mean_the_same {s t u : Shape} (hs : s.Built) (ht : t.Built) :
    (s.nest.IsDistinct ∧ ∀ key c,
      (s.insert key c).keys = (if key ∈ s.keys then s.keys else s.keys ++ [key]) ∧
        Fields.find? key (s.insert key c).fields = some c) ∧
    s.equal t = t.equal s ∧
    (s.equal t = true → t.equal u = true → s.equal u = true) ∧
    (∀ s' : Shape, s.nest.Reorders s'.nest → s'.equal t = s.equal t ∧ t.equal s' = t.equal s) ∧
    (∀ cs ds : List Constraint,
      ((Constraint.anyOf cs).equal (.anyOf ds) = true ↔
        List.Forall₂ (fun c d => c.equal d = true) cs ds) ∧
      ((Constraint.allOf cs).equal (.allOf ds) = true ↔
        List.Forall₂ (fun c d => c.equal d = true) cs ds)) ∧
    (s.equal t = true → ∀ stream,
      ((∃ p, s.bind stream = .ok p) ↔ ∃ q, t.bind stream = .ok q) ∧
        ∀ p q, s.bind stream = .ok p → t.bind stream = .ok q → p.MeansSame q) ∧
    (∃ s t : Shape, s.Built ∧ t.Built ∧ s.equal t = true ∧ ∃ stream p q,
      s.bind (some stream) = .ok p ∧ t.bind (some stream) = .ok q ∧ p.equal q = false) ∧
    ∃ s t : Shape, s.Built ∧ t.Built ∧ s.equal t = true ∧ ∃ stream e e',
      s.bind (some stream) = .error e ∧ t.bind (some stream) = .error e' ∧ e ≠ e' := by
  simp only [Shape.equal_eq_equal_nest]
  have hcomm := Constraint.equal_comm hs.isDistinct ht.isDistinct
  refine ⟨⟨hs.isDistinct, fun key c => ⟨Fields.names_insert key c s.fields,
      Fields.find?_insert_self key c s.fields⟩⟩, hcomm, fun hst htu => ?_, fun s' hs' => ?_,
    fun cs ds => ⟨equalConstraints_iff, equalConstraints_iff⟩, fun hst stream => ?_, ?_, ?_⟩
  · rwa [Constraint.equal_congr hs.isDistinct hst]
  · have hs't : s'.nest.equal t.nest = s.nest.equal t.nest := (hs'.equal_eq t.nest).symm
    refine ⟨hs't, ?_⟩
    rw [Constraint.equal_comm ht.isDistinct (hs'.isDistinct hs.isDistinct), hs't, hcomm]
  · exact Shape.bind_of_equal hs (by rwa [Shape.equal_eq_equal_nest]) stream
  · exact ⟨openTap, openedTap, openTap_built, openedTap_built, rfl, .named "tap", _, _, rfl, rfl,
      by simp [leaf, Pattern.foldRight, Pattern.equal, Condition.equal]⟩
  · exact ⟨unknownTap, tapUnknown, unknownTap_built, tapUnknown_built, rfl, .named "tap", _, _, rfl,
      rfl, by simp⟩

theorem openTap_means_openedTap :
    openTap.equal openedTap = true ∧ ∃ p q, openTap.bind (some (.named "tap")) = .ok p ∧
      openedTap.bind (some (.named "tap")) = .ok q ∧ p.MeansSame q := by
  obtain ⟨-, -, -, -, -, hbind, -⟩ :=
    equal_shapes_mean_the_same (u := openTap) openTap_built openedTap_built
  exact ⟨rfl, _, _, rfl, rfl, (hbind rfl (some (.named "tap"))).2 _ _ rfl rfl⟩

end EventQuery
