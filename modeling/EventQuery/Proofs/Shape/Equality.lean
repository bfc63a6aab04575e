import EventQuery.Proofs.Shape.Building
import Mathlib.Data.Multiset.Bind

/-!
Equality of shapes, as a relation.

The comparison of two shapes goes through the fields of the first one and compares the numbers
of fields. For shapes whose names are distinct that is a matching of the fields of both: each
field of one with the field of the other that has its name. What is shown of equal constraints
is shown along such matchings, from parts to wholes.

* `Fields.Match`: a matching of the entries of two mappings, by name.
* `Constraint.equal_induction`: what holds of equal constraints once it is inherited from their
  parts.
* `Constraint.equal_symm`, `Constraint.equal_congr`: equality is symmetric, and equal constraints
  are equal to the same ones.
* `Constraint.Reorders`: the same constraint with its fields in another order, at any depth;
  `Constraint.Reorders.equal_eq`: equality does not see it.
-/

namespace EventQuery

/-! ### Equality of literals -/

namespace Finite

lemma equal_iff {x y : Finite} : x.equal y = true ↔ (x.isZero ∧ y.isZero) ∨ x = y := by
  simp [equal]

lemma equal_comm (x y : Finite) : x.equal y = y.equal x := by
  rw [equal, equal, Bool.and_comm, BEq.comm]

lemma equal_trans {x y z : Finite} (h : x.equal y = true) (h' : y.equal z = true) :
    x.equal z = true := by
  rw [equal_iff] at *
  obtain ⟨hx, hy⟩ | rfl := h
  · obtain ⟨-, hz⟩ | rfl := h'
    · exact .inl ⟨hx, hz⟩
    · exact .inl ⟨hx, hy⟩
  · exact h'

end Finite

namespace Double

lemma equal_comm (x y : Double) : x.equal y = y.equal x := by
  rcases x with x | _ | s <;> rcases y with y | _ | t <;>
    simp [equal, Finite.equal_comm, BEq.comm]

lemma equal_trans {x y z : Double} (h : x.equal y = true) (h' : y.equal z = true) :
    x.equal z = true := by
  rcases x with x | _ | s <;> rcases y with y | _ | t <;> rcases z with z | _ | u <;>
    simp_all [equal]
  exact Finite.equal_trans h h'

end Double

namespace Scalar

lemma equal_comm (x y : Scalar) : x.equal y = y.equal x := by
  cases x <;> cases y <;> simp [equal, Double.equal_comm, BEq.comm]

lemma equal_trans {x y z : Scalar} (h : x.equal y = true) (h' : y.equal z = true) :
    x.equal z = true := by
  cases x <;> cases y <;> cases z <;> simp_all [equal]
  exact Double.equal_trans h h'

end Scalar

lemma Comparison.equal_comm (a b : Comparison) : a.equal b = b.equal a := by
  rw [equal, equal, BEq.comm, Scalar.equal_comm]

lemma Comparison.equal_trans {a b c : Comparison} (h : a.equal b = true)
    (h' : b.equal c = true) : a.equal c = true := by
  rw [equal, Bool.and_eq_true, beq_iff_eq] at *
  exact ⟨h.1.trans h'.1, Scalar.equal_trans h.2 h'.2⟩

/-! ### Matchings by name -/

namespace Fields

variable {α β : Type} {R : α → β → Prop} {fs : Fields α} {gs : Fields β}

/-- The entries of two mappings in pairs, each with one under its name whose value is related. -/
def Match (R : α → β → Prop) (fs : Fields α) (gs : Fields β) : Prop :=
  Multiset.Rel (fun (a : String × α) (b : String × β) => a.1 = b.1 ∧ R a.2 b.2)
    (Multiset.ofList fs) (Multiset.ofList gs)

/-- Two mappings of one size match if every entry of the first, whose names are distinct, is
found in the second. -/
lemma match_of_find? (hfs : Distinct fs) (hlen : fs.length = gs.length)
    (h : ∀ e ∈ fs, ∃ w, find? e.1 gs = some w ∧ R e.2 w) : Match R fs gs := by
  induction fs generalizing gs with
  | nil =>
      rw [List.eq_nil_of_length_eq_zero hlen.symm]
      exact .zero
  | cons e fs ih =>
      obtain ⟨hfresh, hfs⟩ := List.nodup_cons.mp hfs
      obtain ⟨⟨w, hw, hR⟩, hrest⟩ := List.forall_mem_cons.mp h
      -- the partner of the first entry is taken out; the others have other names
      have hperm := perm_cons_erase hw
      have hlen' : fs.length = (erase e.1 gs).length := by
        have hgs := hperm.length_eq
        rw [List.length_cons] at hgs hlen
        omega
      have hbelow : ∀ d ∈ fs, ∃ u, find? d.1 (erase e.1 gs) = some u ∧ R d.2 u := by
        intro d hd
        have hne : d.1 ≠ e.1 := fun heq => hfresh (heq ▸ List.mem_map_of_mem hd)
        rw [find?_erase_of_ne hne]
        exact hrest d hd
      rw [Match, Multiset.coe_eq_coe.mpr hperm]
      exact .cons ⟨rfl, hR⟩ (ih hfs hlen' hbelow)

namespace Match

lemma length_eq (h : Match R fs gs) : fs.length = gs.length := Multiset.card_eq_card_of_rel h

lemma flip (h : Match R fs gs) : Match (fun b a => R a b) gs fs :=
  Multiset.rel_flip.mp (h.mono fun _ _ _ _ hab => ⟨hab.1.symm, hab.2⟩)

/-- Every entry has a partner under its name. -/
lemma exists_partner (h : Match R fs gs) {e : String × α} (he : e ∈ fs) :
    ∃ w, (e.1, w) ∈ gs ∧ R e.2 w := by
  obtain ⟨⟨key, w⟩, hmem, rfl, hR⟩ := Multiset.exists_mem_of_rel_of_mem h (Multiset.mem_coe.mpr he)
  exact ⟨w, Multiset.mem_coe.mp hmem, hR⟩

/-- What is the same for related values under one name is the same for all entries. -/
lemma forall_iff {P : String × α → Prop} {Q : String × β → Prop} (h : Match R fs gs)
    (hPQ : ∀ key v w, R v w → (P (key, v) ↔ Q (key, w))) : (∀ e ∈ fs, P e) ↔ ∀ d ∈ gs, Q d := by
  constructor
  · intro hP d hd
    obtain ⟨v, hv, hR⟩ := h.flip.exists_partner hd
    exact (hPQ d.1 v d.2 hR).mp (hP _ hv)
  · intro hQ e he
    obtain ⟨w, hw, hR⟩ := h.exists_partner he
    exact (hPQ e.1 e.2 w hR).mpr (hQ _ hw)

end Match

end Fields

/-! ### Equality of constraints -/

/-- Lists of constraints are equal position by position. -/
lemma equalConstraints_iff {cs ds : List Constraint} :
    equalConstraints cs ds = true ↔ List.Forall₂ (fun c d => c.equal d = true) cs ds := by
  induction cs generalizing ds with
  | nil => cases ds <;> simp [equalConstraints]
  | cons c cs ih => cases ds <;> simp [equalConstraints, ih]

/-- Fields are equal to others if each of them is found there with an equal constraint. -/
lemma equalFields_iff {fs gs : Fields Constraint} :
    equalFields fs gs = true ↔
      ∀ e ∈ fs, ∃ d, Fields.find? e.1 gs = some d ∧ e.2.equal d = true := by
  induction fs with
  | nil => simp [equalFields]
  | cons e fs ih =>
      rw [equalFields, Bool.and_eq_true, ih, List.forall_mem_cons]
      cases Fields.find? e.1 gs <;> simp

namespace Constraint

lemma equal_nested_iff {fs gs : Fields Constraint} :
    (nested fs).equal (nested gs) = true ↔ fs.length = gs.length ∧
      ∀ e ∈ fs, ∃ d, Fields.find? e.1 gs = some d ∧ e.2.equal d = true := by
  rw [equal, Bool.and_eq_true, beq_iff_eq, equalFields_iff]

/-- **Induction over equal constraints**: a relation holds of them, once it holds of equal
literals and comparisons and passes from parts to wholes: position by position in choices and
collections, by name in shapes. The names of one of the two have to be distinct. -/
theorem equal_induction {R : Constraint → Constraint → Prop}
    (scalar : ∀ {x y : Scalar}, x.equal y = true → R (scalar x) (scalar y))
    (comparison : ∀ {a b : Comparison}, a.equal b = true → R (comparison a) (comparison b))
    (anyOf : ∀ {cs ds}, List.Forall₂ R cs ds → R (anyOf cs) (anyOf ds))
    (allOf : ∀ {cs ds}, List.Forall₂ R cs ds → R (allOf cs) (allOf ds))
    (nested : ∀ {fs gs}, Fields.Distinct fs → Fields.Match R fs gs → R (nested fs) (nested gs))
    (c : Constraint) : c.IsDistinct → ∀ d, c.equal d = true → R c d := by
  have hlist : ∀ {cs ds : List Constraint},
      (∀ c ∈ cs, c.IsDistinct → ∀ d, c.equal d = true → R c d) → (∀ c ∈ cs, c.IsDistinct) →
        equalConstraints cs ds = true → List.Forall₂ R cs ds := by
    intro cs ds ih hcs h
    have hall := (List.forall₂_and_left _ _).mpr
      ⟨fun c hc => ih c hc (hcs c hc), equalConstraints_iff.mp h⟩
    exact hall.imp fun c d h => h.1 d h.2
  induction c using Constraint.ind with
  | scalar x =>
      intro _ d h
      cases d with
      | scalar y => exact scalar h
      | _ => simp [equal] at h
  | comparison a =>
      intro _ d h
      cases d with
      | comparison b => exact comparison h
      | _ => simp [equal] at h
  | anyOf cs ih =>
      intro hc d h
      cases d with
      | anyOf ds => exact anyOf (hlist ih (isDistinct_anyOf.mp hc) h)
      | _ => simp [equal] at h
  | allOf cs ih =>
      intro hc d h
      cases d with
      | allOf ds => exact allOf (hlist ih (isDistinct_allOf.mp hc) h)
      | _ => simp [equal] at h
  | nested fs ih =>
      intro hc d h
      cases d with
      | nested gs =>
          obtain ⟨hfs, hall⟩ := isDistinct_nested.mp hc
          obtain ⟨hlen, hfound⟩ := equal_nested_iff.mp h
          refine nested hfs (Fields.match_of_find? hfs hlen fun e he => ?_)
          obtain ⟨d, hd, heq⟩ := hfound e he
          exact ⟨d, hd, ih e he (hall e he) d heq⟩
      | _ => simp [equal] at h

/-- Equality is symmetric. -/
theorem equal_symm {c d : Constraint} (hc : c.IsDistinct) (h : c.equal d = true) :
    d.equal c = true := by
  refine equal_induction (R := fun c d => d.equal c = true) ?_ ?_ ?_ ?_ ?_ c hc d h
  · intro x y h
    rwa [equal, Scalar.equal_comm]
  · intro a b h
    rwa [equal, Comparison.equal_comm]
  · intro cs ds h
    rw [equal, equalConstraints_iff]
    exact h.flip
  · intro cs ds h
    rw [equal, equalConstraints_iff]
    exact h.flip
  · -- the partner of a field is the one that is found, as names are distinct
    intro fs gs hfs h
    refine equal_nested_iff.mpr ⟨h.length_eq.symm, fun e he => ?_⟩
    obtain ⟨c, hc, heq⟩ := h.flip.exists_partner he
    exact ⟨c, Fields.find?_of_mem hfs hc, heq⟩

lemma equal_comm {c d : Constraint} (hc : c.IsDistinct) (hd : d.IsDistinct) :
    c.equal d = d.equal c := Bool.eq_iff_iff.mpr ⟨equal_symm hc, equal_symm hd⟩

/-- Lists of constraints that are equal to the same ones are equal to the same lists. -/
lemma equalConstraints_congr {cs ds : List Constraint}
    (h : List.Forall₂ (fun c d => ∀ e, c.equal e = d.equal e) cs ds) (es : List Constraint) :
    equalConstraints cs es = equalConstraints ds es := by
  induction h generalizing es with
  | nil => rfl
  | cons hc _ ih =>
      cases es with
      | nil => rfl
      | cons e es => rw [equalConstraints, equalConstraints, hc e, ih es]

/-- Equal constraints are equal to the same ones. -/
theorem equal_congr {c d : Constraint} (hc : c.IsDistinct) (h : c.equal d = true) :
    ∀ e, c.equal e = d.equal e := by
  refine equal_induction (R := fun c d => ∀ e, c.equal e = d.equal e) ?_ ?_ ?_ ?_ ?_ c hc d h
  · intro x y h e
    cases e with
    | scalar z =>
        rw [equal, equal, Bool.eq_iff_iff]
        exact ⟨Scalar.equal_trans (Scalar.equal_comm x y ▸ h), Scalar.equal_trans h⟩
    | _ => rfl
  · intro a b h e
    cases e with
    | comparison c =>
        rw [equal, equal, Bool.eq_iff_iff]
        exact ⟨Comparison.equal_trans (Comparison.equal_comm a b ▸ h), Comparison.equal_trans h⟩
    | _ => rfl
  · intro cs ds h e
    cases e with
    | anyOf es => exact equalConstraints_congr h es
    | _ => rfl
  · intro cs ds h e
    cases e with
    | allOf es => exact equalConstraints_congr h es
    | _ => rfl
  · intro fs gs _ h e
    cases e with
    | nested hs =>
        rw [Bool.eq_iff_iff, equal_nested_iff, equal_nested_iff, h.length_eq]
        exact and_congr_right fun _ => h.forall_iff fun key c d hcd => by simp only [hcd]
    | _ => rfl

/-! ### Another order of fields -/

/-- A constraint and one that differs from it by the order of the fields, in a shape at any
depth: in itself, below one of its fields, in one of its alternatives or in one of the
constraints it collects. -/
inductive Reorders : Constraint → Constraint → Prop where
  | refl (c : Constraint) : Reorders c c
  | trans {c d e : Constraint} : Reorders c d → Reorders d e → Reorders c e
  | fields {fs gs : Fields Constraint} : fs.Perm gs → Reorders (nested fs) (nested gs)
  | field (before : Fields Constraint) (key : String) {c d : Constraint} (after : Fields Constraint) :
      Reorders c d →
        Reorders (nested (before ++ (key, c) :: after)) (nested (before ++ (key, d) :: after))
  | alternative (before : List Constraint) {c d : Constraint} (after : List Constraint) :
      Reorders c d → Reorders (anyOf (before ++ c :: after)) (anyOf (before ++ d :: after))
  | collected (before : List Constraint) {c d : Constraint} (after : List Constraint) :
      Reorders c d → Reorders (allOf (before ++ c :: after)) (allOf (before ++ d :: after))

namespace Reorders

/-- Names stay distinct in another order. -/
lemma isDistinct {c d : Constraint} (h : c.Reorders d) : c.IsDistinct → d.IsDistinct := by
  induction h with
  | refl c => exact id
  | trans _ _ ih ih' => exact ih' ∘ ih
  | fields hperm =>
      rw [isDistinct_nested, isDistinct_nested]
      exact fun ⟨hfs, hall⟩ => ⟨(hperm.map Prod.fst).nodup_iff.mp hfs,
        fun e he => hall e (hperm.mem_iff.mpr he)⟩
  | field before key after _ ih =>
      simp only [isDistinct_nested, List.forall_mem_append, List.forall_mem_cons, Fields.Distinct,
        Fields.names, List.map_append, List.map_cons]
      exact fun ⟨hfs, hbefore, hc, hafter⟩ => ⟨hfs, hbefore, ih hc, hafter⟩
  | alternative before after _ ih =>
      simp only [isDistinct_anyOf, List.forall_mem_append, List.forall_mem_cons]
      exact fun ⟨hbefore, hc, hafter⟩ => ⟨hbefore, ih hc, hafter⟩
  | collected before after _ ih =>
      simp only [isDistinct_allOf, List.forall_mem_append, List.forall_mem_cons]
      exact fun ⟨hbefore, hc, hafter⟩ => ⟨hbefore, ih hc, hafter⟩

/-- **The order of fields does not count** for equality, at any depth. -/
theorem equal_eq {c d : Constraint} (h : c.Reorders d) : ∀ e, c.equal e = d.equal e := by
  have hone : ∀ (before : List Constraint) {c d} (after : List Constraint),
      (∀ e, c.equal e = d.equal e) → List.Forall₂ (fun c d => ∀ e, c.equal e = d.equal e)
        (before ++ c :: after) (before ++ d :: after) := by
    intro before c d after hcd
    exact List.rel_append (List.forall₂_same.mpr fun _ _ _ => rfl)
      (.cons hcd (List.forall₂_same.mpr fun _ _ _ => rfl))
  induction h with
  | refl c => exact fun e => rfl
  | trans _ _ ih ih' => exact fun e => (ih e).trans (ih' e)
  | fields hperm =>
      intro e
      cases e with
      | nested hs =>
          rw [Bool.eq_iff_iff, equal_nested_iff, equal_nested_iff, hperm.length_eq]
          exact and_congr_right fun _ => forall_congr' fun e => by rw [hperm.mem_iff]
      | _ => rfl
  | field before key after _ ih =>
      intro e
      cases e with
      | nested hs =>
          rw [Bool.eq_iff_iff, equal_nested_iff, equal_nested_iff]
          simp only [List.length_append, List.length_cons, List.forall_mem_append,
            List.forall_mem_cons, ih]
      | _ => rfl
  | alternative before after _ ih =>
      intro e
      cases e with
      | anyOf es => exact equalConstraints_congr (hone before after ih) es
      | _ => rfl
  | collected before after _ ih =>
      intro e
      cases e with
      | allOf es => exact equalConstraints_congr (hone before after ih) es
      | _ => rfl

end Reorders

end Constraint

/-- Shapes are compared as the constraints that they are on the field above them. -/
lemma Shape.equal_eq_equal_nest (s t : Shape) : s.equal t = s.nest.equal t.nest := by
  rw [Shape.equal, Shape.nest, Shape.nest, Constraint.equal]

end EventQuery
