import EventQuery.Proofs.Induction
import EventQuery.Proofs.Outcome

/-!
What a shape means, and that binding keeps it.

A shape is read twice, once as a statement about the fields of an event and once
as the list of its leaves; a pattern that is put together by `and` and `or` has
the same two readings. Binding takes one to the other.

* `Shape.truth`, `Pattern.truth?`: truth under a valuation of the atomic
  conditions, the latter only for patterns made by `and` and `or`.
* `Shape.leaves`, `Pattern.leaves`: the leaves, depth first and in order.
* `Pattern.rebind`: the same tree for another stream.
* `bind_induction`: what holds of every bound constraint once it is inherited
  from its parts; the truth (`truth?_of_bind`) and the leaves (`leaves_of_bind`)
  are two such properties.
* `bind_preserves_meaning`: both readings are kept, and the stream is the only
  difference between bindings of one shape.
-/

namespace EventQuery

/-- A truth value for each atomic condition: a field, an operator, a literal. -/
abbrev Valuation := List String → Operator → Scalar → Bool

/-- A leaf of a shape: the field names that lead to it, and its comparison. -/
structure Leaf where
  path : List String
  test : Comparison

namespace Leaf

/-- The leaf seen from one field further out. -/
def under (key : String) (l : Leaf) : Leaf := ⟨key :: l.path, l.test⟩

/-- The condition of a leaf below a path. -/
def condition (stream : Option Stream) (path : List String) (l : Leaf) : Condition :=
  .mk (path ++ l.path) l.test.op l.test.operand stream

end Leaf

/-! ### Reading shapes -/

mutual

/-- Whether a constraint on the field at a path holds: a bare literal asks for
equality. -/
def Constraint.truth (v : Valuation) (path : List String) : Constraint → Bool
  | .scalar x => v path .eq x
  | .comparison c => v path c.op c.operand
  | .anyOf cs => anyTrue v path cs
  | .allOf cs => allTrue v path cs
  | .nested fs => fieldsTrue v path fs

/-- Whether one of some constraints on one field holds. -/
def anyTrue (v : Valuation) (path : List String) : List Constraint → Bool
  | [] => false
  | c :: cs => c.truth v path || anyTrue v path cs

/-- Whether all of some constraints on one field hold. -/
def allTrue (v : Valuation) (path : List String) : List Constraint → Bool
  | [] => true
  | c :: cs => c.truth v path && allTrue v path cs

/-- Whether all fields below a path are as they must be. -/
def fieldsTrue (v : Valuation) (path : List String) : List (String × Constraint) → Bool
  | [] => true
  | (key, c) :: fs => c.truth v (path ++ [key]) && fieldsTrue v path fs

end

/-- Whether an event is as a shape says. -/
def Shape.truth (v : Valuation) (s : Shape) : Bool := fieldsTrue v [eventRoot] s.fields

mutual

/-- The leaves of a constraint, seen from its field. -/
def Constraint.leaves : Constraint → List Leaf
  | .scalar x => [⟨[], .eq, x⟩]
  | .comparison c => [⟨[], c⟩]
  | .anyOf cs => constraintLeaves cs
  | .allOf cs => constraintLeaves cs
  | .nested fs => fieldLeaves fs

/-- The leaves of some constraints on one field. -/
def constraintLeaves : List Constraint → List Leaf
  | [] => []
  | c :: cs => c.leaves ++ constraintLeaves cs

/-- The leaves of fields, seen from the place above them. -/
def fieldLeaves : List (String × Constraint) → List Leaf
  | [] => []
  | (key, c) :: fs => c.leaves.map (Leaf.under key) ++ fieldLeaves fs

end

lemma fieldLeaves_eq_flatMap (fs : Fields Constraint) :
    fieldLeaves fs = fs.flatMap fun e => e.2.leaves.map (Leaf.under e.1) := by
  induction fs with
  | nil => rfl
  | cons e fs ih => rw [fieldLeaves, ih, List.flatMap_cons]

/-- The leaves of a shape, seen from the root of an event. -/
def Shape.leaves (s : Shape) : List Leaf := fieldLeaves s.fields

/-! ### Reading patterns -/

namespace Pattern

/-- Whether a pattern made by `and` and `or` holds; no other pattern has a truth
value. -/
def truth? (v : Valuation) : Pattern → Option Bool
  | condition c => some (v c.path c.op c.operand)
  | and l r => do return (← l.truth? v) && (← r.truth? v)
  | or l r => do return (← l.truth? v) || (← r.truth? v)
  | _ => none

/-- The conditions of a pattern made by `and` and `or`, from left to right. -/
def leaves : Pattern → List Condition
  | condition c => [c]
  | and l r => l.leaves ++ r.leaves
  | or l r => l.leaves ++ r.leaves
  | _ => []

/-- A pattern made by `and` and `or` with another stream at every leaf. -/
def rebind (stream : Option Stream) : Pattern → Pattern
  | condition c => condition (.mk c.path c.op c.operand stream)
  | and l r => and (l.rebind stream) (r.rebind stream)
  | or l r => or (l.rebind stream) (r.rebind stream)
  | p => p

end Pattern

/-! ### Right folds -/

namespace Pattern

variable {join : Pattern → Pattern → Pattern}

/-- Operands joined from the right have the truth of their values, joined from
the right. -/
lemma truth?_foldRight {v : Valuation} {op : Bool → Bool → Bool} {unit : Bool}
    (hjoin : ∀ {l r a b}, l.truth? v = some a → r.truth? v = some b →
      (join l r).truth? v = some (op a b))
    (hunit : ∀ b, op b unit = b) : ∀ {bs : List Bool} {p : Pattern} {ps : List Pattern},
    List.Forall₂ (fun b q => q.truth? v = some b) bs (p :: ps) →
      (foldRight join p ps).truth? v = some (bs.foldr op unit)
  | [b], p, [], .cons hb .nil => by rw [foldRight, hb, List.foldr, List.foldr, hunit]
  | b :: c :: bs, p, q :: ps, .cons hb hbs => by
      rw [foldRight, List.foldr]
      exact hjoin hb (truth?_foldRight hjoin hunit hbs)

/-- The leaves of operands joined from the right are the leaves of the operands,
in order. -/
lemma leaves_foldRight (hjoin : ∀ l r, (join l r).leaves = l.leaves ++ r.leaves) (p : Pattern)
    (ps : List Pattern) : (foldRight join p ps).leaves = (p :: ps).flatMap leaves := by
  induction ps generalizing p with
  | nil => simp [foldRight]
  | cons q ps ih => rw [foldRight, hjoin, ih, ← List.flatMap_cons]

/-- Another stream at every leaf is another stream in every operand. -/
lemma rebind_foldRight {stream : Option Stream}
    (hjoin : ∀ l r, (join l r).rebind stream = join (l.rebind stream) (r.rebind stream))
    (p : Pattern) (ps : List Pattern) :
    (foldRight join p ps).rebind stream
      = foldRight join (p.rebind stream) (ps.map (rebind stream)) := by
  induction ps generalizing p with
  | nil => rfl
  | cons q ps ih => rw [foldRight, hjoin, ih, List.map_cons, foldRight]

end Pattern

/-! ### Induction over what was bound -/

/-- Constraints on one field are bound one by one. -/
lemma bindConstraints_eq_ok {stream : Option Stream} {path : List String} :
    ∀ {cs : List Constraint} {ps : List Pattern}, bindConstraints stream path cs = .ok ps →
      List.Forall₂ (fun c p => c.bind stream path = .ok p) cs ps
  | [], ps, h => by
      cases h
      exact .nil
  | c :: cs, ps, h => by
      simp only [bindConstraints, bind_eq_ok, pure_eq_ok, Except.ok.injEq] at h
      obtain ⟨p, hp, ps', hps, rfl⟩ := h
      exact .cons hp (bindConstraints_eq_ok hps)

/-- Fields are bound one by one, each below its own name. -/
lemma bindFields_eq_ok {stream : Option Stream} {path : List String} :
    ∀ {fs : List (String × Constraint)} {ps : List Pattern}, bindFields stream path fs = .ok ps →
      List.Forall₂ (fun e p => e.2.bind stream (path ++ [e.1]) = .ok p) fs ps
  | [], ps, h => by
      cases h
      exact .nil
  | (key, c) :: fs, ps, h => by
      simp only [bindFields, bind_eq_ok, pure_eq_ok, Except.ok.injEq] at h
      obtain ⟨p, hp, ps', hps, rfl⟩ := h
      exact .cons hp (bindFields_eq_ok hps)

/-- A relation between the constraints on a field and their patterns holds of
whatever is bound, once it holds of leaves and passes from the operands to the
folds. -/
theorem bind_induction {stream : Option Stream} {R : List String → Constraint → Pattern → Prop}
    (scalar : ∀ path x, R path (.scalar x) (leaf stream path ⟨.eq, x⟩))
    (comparison : ∀ path c, R path (.comparison c) (leaf stream path c))
    (anyOf : ∀ path cs p ps, List.Forall₂ (R path) cs (p :: ps) →
      R path (.anyOf cs) (Pattern.foldRight .or p ps))
    (allOf : ∀ path cs p ps, List.Forall₂ (R path) cs (p :: ps) →
      R path (.allOf cs) (Pattern.foldRight .and p ps))
    (nested : ∀ path fs p ps,
      List.Forall₂ (fun (e : String × Constraint) => R (path ++ [e.1]) e.2) fs (p :: ps) →
        R path (.nested fs) (Pattern.foldRight .and p ps))
    (c : Constraint) : ∀ {path p}, c.bind stream path = .ok p → R path c p := by
  induction c using Constraint.ind with
  | scalar x =>
      intro path p h
      cases h
      exact scalar path x
  | comparison c =>
      intro path p h
      cases h
      exact comparison path c
  | anyOf cs ih =>
      intro path p h
      cases cs with
      | nil => simp [Constraint.bind] at h
      | cons c cs =>
          simp only [Constraint.bind, bind_eq_ok, pure_eq_ok, Except.ok.injEq] at h
          obtain ⟨q, hq, qs, hqs, rfl⟩ := h
          have hcs := (List.forall₂_and_left _ _).mpr ⟨ih, .cons hq (bindConstraints_eq_ok hqs)⟩
          exact anyOf path _ q qs (hcs.imp fun c p h => h.1 h.2)
  | allOf cs ih =>
      intro path p h
      cases cs with
      | nil => simp [Constraint.bind] at h
      | cons c cs =>
          simp only [Constraint.bind, bind_eq_ok, pure_eq_ok, Except.ok.injEq] at h
          obtain ⟨q, hq, qs, hqs, rfl⟩ := h
          have hcs := (List.forall₂_and_left _ _).mpr ⟨ih, .cons hq (bindConstraints_eq_ok hqs)⟩
          exact allOf path _ q qs (hcs.imp fun c p h => h.1 h.2)
  | nested fs ih =>
      intro path p h
      simp only [Constraint.bind, bind_eq_ok] at h
      obtain ⟨ps, hps, hp⟩ := h
      have hfs := (List.forall₂_and_left _ _).mpr ⟨ih, bindFields_eq_ok hps⟩
      cases ps with
      | nil => simp [joinFields] at hp
      | cons q qs =>
          cases hp
          exact nested path fs q qs (hfs.imp fun e p h => h.1 h.2)

/-! ### What binding keeps -/

lemma anyTrue_eq (v : Valuation) (path : List String) (cs : List Constraint) :
    anyTrue v path cs = (cs.map (Constraint.truth v path)).foldr (· || ·) false := by
  induction cs with
  | nil => rfl
  | cons c cs ih => rw [anyTrue, ih, List.map_cons, List.foldr]

lemma allTrue_eq (v : Valuation) (path : List String) (cs : List Constraint) :
    allTrue v path cs = (cs.map (Constraint.truth v path)).foldr (· && ·) true := by
  induction cs with
  | nil => rfl
  | cons c cs ih => rw [allTrue, ih, List.map_cons, List.foldr]

lemma fieldsTrue_eq (v : Valuation) (path : List String) (fs : List (String × Constraint)) :
    fieldsTrue v path fs
      = (fs.map fun e => e.2.truth v (path ++ [e.1])).foldr (· && ·) true := by
  induction fs with
  | nil => rfl
  | cons e fs ih => rw [fieldsTrue, ih, List.map_cons, List.foldr]

/-- A bound constraint is true as a pattern if it is true as a constraint. -/
lemma truth?_of_bind {stream : Option Stream} {path : List String} {c : Constraint} {p : Pattern}
    (v : Valuation) (h : c.bind stream path = .ok p) : p.truth? v = some (c.truth v path) := by
  have hand : ∀ {l r : Pattern} {a b : Bool}, l.truth? v = some a → r.truth? v = some b →
      (Pattern.and l r).truth? v = some (a && b) := by
    intro l r a b hl hr
    simp [Pattern.truth?, hl, hr]
  have hor : ∀ {l r : Pattern} {a b : Bool}, l.truth? v = some a → r.truth? v = some b →
      (Pattern.or l r).truth? v = some (a || b) := by
    intro l r a b hl hr
    simp [Pattern.truth?, hl, hr]
  refine bind_induction (R := fun path c p => p.truth? v = some (c.truth v path))
    ?_ ?_ ?_ ?_ ?_ c h
  · intro path x
    rfl
  · intro path c
    rfl
  · intro path cs p ps hcs
    rw [Constraint.truth, anyTrue_eq]
    exact Pattern.truth?_foldRight hor Bool.or_false ((List.forall₂_map_left_iff).mpr hcs)
  · intro path cs p ps hcs
    rw [Constraint.truth, allTrue_eq]
    exact Pattern.truth?_foldRight hand Bool.and_true ((List.forall₂_map_left_iff).mpr hcs)
  · intro path fs p ps hfs
    rw [Constraint.truth, fieldsTrue_eq]
    exact Pattern.truth?_foldRight hand Bool.and_true ((List.forall₂_map_left_iff).mpr hfs)

/-- The leaves of a pattern are those of the constraint it was bound from. -/
lemma leaves_of_bind {stream : Option Stream} {path : List String} {c : Constraint} {p : Pattern}
    (h : c.bind stream path = .ok p) : p.leaves = c.leaves.map (Leaf.condition stream path) := by
  have hall : ∀ {path : List String} {cs : List Constraint} {ps : List Pattern},
      List.Forall₂ (fun c p => p.leaves = c.leaves.map (Leaf.condition stream path)) cs ps →
        ps.flatMap Pattern.leaves = (constraintLeaves cs).map (Leaf.condition stream path) := by
    intro path cs ps hcs
    induction hcs with
    | nil => rfl
    | cons hc _ ih => rw [List.flatMap_cons, constraintLeaves, List.map_append, hc, ih]
  have hbelow : ∀ {path : List String} {fs : List (String × Constraint)} {ps : List Pattern},
      List.Forall₂ (fun e p => p.leaves = e.2.leaves.map (Leaf.condition stream (path ++ [e.1])))
        fs ps → ps.flatMap Pattern.leaves = (fieldLeaves fs).map (Leaf.condition stream path) := by
    intro path fs ps hfs
    induction hfs with
    | nil => rfl
    | cons he _ ih =>
        rw [List.flatMap_cons, fieldLeaves, List.map_append, he, ih, List.map_map]
        simp [Leaf.condition, Leaf.under, Function.comp_def]
  refine bind_induction
    (R := fun path c p => p.leaves = c.leaves.map (Leaf.condition stream path)) ?_ ?_ ?_ ?_ ?_ c h
  · intro path x
    simp [leaf, Pattern.leaves, Constraint.leaves, Leaf.condition]
  · intro path c
    simp [leaf, Pattern.leaves, Constraint.leaves, Leaf.condition]
  · intro path cs p ps hcs
    rw [Pattern.leaves_foldRight (fun _ _ => rfl), hall hcs, Constraint.leaves]
  · intro path cs p ps hcs
    rw [Pattern.leaves_foldRight (fun _ _ => rfl), hall hcs, Constraint.leaves]
  · intro path fs p ps hfs
    rw [Pattern.leaves_foldRight (fun _ _ => rfl), hbelow hfs, Constraint.leaves]

/-! ### What the stream changes -/

/-- Two bindings that differ by the stream at the leaves. -/
def SameButStream (stream : Option Stream) (x y : Except QueryError Pattern) : Prop :=
  x = y.map (Pattern.rebind stream)

/-- Joining from the right what differs by the stream at the leaves. -/
lemma foldRight_sameButStream {stream : Option Stream} (join : Pattern → Pattern → Pattern)
    (hjoin : ∀ l r, (join l r).rebind stream = join (l.rebind stream) (r.rebind stream))
    {x y : Except QueryError Pattern} {xs ys : Except QueryError (List Pattern)}
    (h : SameButStream stream x y) (hs : xs = ys.map (List.map (Pattern.rebind stream))) :
    SameButStream stream (do return Pattern.foldRight join (← x) (← xs))
      (do return Pattern.foldRight join (← y) (← ys)) := by
  rw [SameButStream] at h ⊢
  subst h hs
  cases y with
  | error e => rfl
  | ok p =>
      cases ys with
      | error e => rfl
      | ok ps => simp [Pattern.rebind_foldRight hjoin]

lemma bindConstraints_rebind {stream other : Option Stream} {path : List String}
    {cs : List Constraint}
    (h : ∀ c ∈ cs, ∀ path, SameButStream stream (c.bind stream path) (c.bind other path)) :
    bindConstraints stream path cs
      = (bindConstraints other path cs).map (List.map (Pattern.rebind stream)) := by
  induction cs with
  | nil => rfl
  | cons c cs ih =>
      rw [bindConstraints, bindConstraints, h c (by simp), ih fun d hd => h d (by simp [hd])]
      cases c.bind other path <;> cases bindConstraints other path cs <;> rfl

lemma bindFields_rebind {stream other : Option Stream} {path : List String}
    {fs : List (String × Constraint)}
    (h : ∀ e ∈ fs, ∀ path, SameButStream stream (e.2.bind stream path) (e.2.bind other path)) :
    bindFields stream path fs
      = (bindFields other path fs).map (List.map (Pattern.rebind stream)) := by
  induction fs with
  | nil => rfl
  | cons e fs ih =>
      rw [bindFields, bindFields, h e (by simp), ih fun d hd => h d (by simp [hd])]
      cases e.2.bind other (path ++ [e.1]) <;> cases bindFields other path fs <;> rfl

/-- The stream does not decide whether binding succeeds, nor the tree or the
error: it is only put at the leaves. -/
lemma bind_rebind (stream other : Option Stream) (c : Constraint) :
    ∀ path, SameButStream stream (c.bind stream path) (c.bind other path) := by
  induction c using Constraint.ind with
  | scalar x => exact fun path => rfl
  | comparison c => exact fun path => rfl
  | anyOf cs ih =>
      intro path
      cases cs with
      | nil => rfl
      | cons c cs =>
          rw [Constraint.bind, Constraint.bind]
          exact foldRight_sameButStream .or (fun _ _ => rfl) (ih c (by simp) path)
            (bindConstraints_rebind fun d hd => ih d (List.mem_cons_of_mem c hd))
  | allOf cs ih =>
      intro path
      cases cs with
      | nil => rfl
      | cons c cs =>
          rw [Constraint.bind, Constraint.bind]
          exact foldRight_sameButStream .and (fun _ _ => rfl) (ih c (by simp) path)
            (bindConstraints_rebind fun d hd => ih d (List.mem_cons_of_mem c hd))
  | nested fs ih =>
      intro path
      have hand : ∀ p ps, (Pattern.foldRight .and p ps).rebind stream
          = Pattern.foldRight .and (p.rebind stream) (ps.map (Pattern.rebind stream)) :=
        Pattern.rebind_foldRight fun _ _ => rfl
      rw [SameButStream, Constraint.bind, Constraint.bind, bindFields_rebind ih]
      rcases bindFields other path fs with e | ⟨_ | ⟨p, ps⟩⟩
      · rfl
      · rfl
      · simp [joinFields, hand]

/-- **Binding keeps the meaning of a shape.** What a shape is bound to is true
under a valuation if the shape is; its leaves are the leaves of the shape in
order, each below the root of the event and with the stream that was bound; and
the pattern of a shape for a stream is that of the shape alone with the stream
put at its leaves. -/
theorem bind_preserves_meaning (s : Shape) (stream : Option Stream) :
    (∀ p, s.bind stream = .ok p →
      (∀ v, p.truth? v = some (s.truth v)) ∧
        p.leaves = s.leaves.map (Leaf.condition stream [eventRoot])) ∧
      ∀ t : Stream, t.bind (.shape s) = (filterPattern s).map (Pattern.rebind (some t)) := by
  have hnest : ∀ o, s.bind o = s.nest.bind o [eventRoot] := by
    intro o
    rw [Shape.bind, Shape.nest, Constraint.bind]
  refine ⟨fun p hp => ⟨fun v => ?_, ?_⟩, fun t => ?_⟩
  · rw [hnest] at hp
    rw [truth?_of_bind v hp, Shape.nest, Constraint.truth, Shape.truth]
  · rw [hnest] at hp
    rw [leaves_of_bind hp, Shape.nest, Constraint.leaves, Shape.leaves]
  · rw [Stream.bind, filterPattern, hnest, hnest]
    exact bind_rebind (some t) none s.nest [eventRoot]

/-- A choice between a comparison and a shape of two fields, beside a bare
literal. -/
def switchedOff : Shape :=
  ⟨[("state", .anyOf [.comparison ⟨.gt, .int 3⟩,
      .nested [("a", .scalar (.bool true)), ("b", .allOf [.scalar (.string "x")])]]),
    ("on", .scalar (.bool false))]⟩

theorem switchedOff_meaning :
    ∃ p, switchedOff.bind (some (.named "S")) = .ok p ∧
      (∀ v, p.truth? v = some (switchedOff.truth v)) ∧
      p.leaves.map Condition.path
        = [["event", "state"], ["event", "state", "a"], ["event", "state", "b"],
            ["event", "on"]] := by
  have h := (bind_preserves_meaning switchedOff (some (.named "S"))).1 _ rfl
  exact ⟨_, rfl, h.1, by rw [h.2]; rfl⟩

end EventQuery
