import Mathlib.Data.List.Forall2
import Mathlib.Tactic.Lemma

/-!
Computations that may fail: when a sequence of them succeeds, and with what.

* `bind_eq_ok`: a sequence of two succeeds if both do, the second on the result
  of the first. With `pure_eq_ok` it takes any chain of steps apart.
* `mapM_eq_ok`, `mapM_eq_some`: the same for a list of them; `mapM_eq_error`: it fails at the
  first one that does.
* `forall_mem_of_forall₂`, `map_eq_of_forall₂`, `forall₂_trans`: lists whose items are related in
  pairs.
* `FailsWithFirst`: a computation that fails with the first of some errors;
  `FailsWithFirst.bind`: a sequence of two has the errors of the first in front.
* `Alike`: two computations that fail alike or succeed with related results.
-/

namespace EventQuery

variable {ε α β : Type}

@[simp] lemma ok_bind (a : α) (f : α → Except ε β) : (Except.ok a >>= f) = f a := rfl

@[simp] lemma error_bind (e : ε) (f : α → Except ε β) :
    ((Except.error e : Except ε α) >>= f) = .error e := rfl

@[simp] lemma pure_eq_ok (a : α) : (pure a : Except ε α) = .ok a := rfl

@[simp] lemma map_ok (f : α → β) (a : α) : (Except.ok a : Except ε α).map f = .ok (f a) := rfl

@[simp] lemma map_error (f : α → β) (e : ε) :
    (Except.error e : Except ε α).map f = .error e := rfl

/-- A sequence of two computations succeeds if both do. -/
lemma bind_eq_ok {x : Except ε α} {f : α → Except ε β} {b : β} :
    (x >>= f) = .ok b ↔ ∃ a, x = .ok a ∧ f a = .ok b := by
  cases x with
  | error e => simp
  | ok a => simp

lemma map_eq_ok {x : Except ε α} {f : α → β} {b : β} :
    x.map f = .ok b ↔ ∃ a, x = .ok a ∧ f a = b := by
  cases x with
  | error e => simp
  | ok a => simp

/-- A list of computations succeeds if each of them does. -/
lemma mapM_eq_ok {f : α → Except ε β} {as : List α} {bs : List β} :
    as.mapM f = .ok bs ↔ List.Forall₂ (fun a b => f a = .ok b) as bs := by
  induction as generalizing bs with
  | nil => rw [List.mapM_nil, pure_eq_ok, Except.ok.injEq, List.forall₂_nil_left_iff, eq_comm]
  | cons a as ih =>
      simp only [List.mapM_cons, bind_eq_ok, pure_eq_ok, Except.ok.injEq,
        List.forall₂_cons_left_iff, ih]
      constructor
      · rintro ⟨b, hb, cs, hcs, rfl⟩
        exact ⟨b, cs, hb, hcs, rfl⟩
      · rintro ⟨b, cs, hb, hcs, rfl⟩
        exact ⟨b, hb, cs, hcs, rfl⟩

/-- A list of results that may be absent is there if each of them is. -/
lemma mapM_eq_some {f : α → Option β} {as : List α} {bs : List β} :
    as.mapM f = some bs ↔ as.map f = bs.map some := by
  induction as generalizing bs with
  | nil =>
      rw [List.mapM_nil, List.map_nil, List.nil_eq, List.map_eq_nil_iff, eq_comm]
      exact Option.some_inj
  | cons a as ih =>
      simp only [List.mapM_cons, Option.bind_eq_bind, Option.bind_eq_some_iff, ih, List.map_cons]
      constructor
      · rintro ⟨b, hb, cs, hcs, h⟩
        obtain rfl := Option.some.inj h
        rw [hb, hcs, List.map_cons]
      · intro h
        cases bs with
        | nil => cases h
        | cons b cs =>
            obtain ⟨hb, hcs⟩ := List.cons.inj h
            exact ⟨b, hb, cs, hcs, rfl⟩

lemma mapM_cons_eq_error {f : α → Except ε β} {a : α} {as : List α} {e : ε} :
    (a :: as).mapM f = .error e ↔
      f a = .error e ∨ (∃ b, f a = .ok b) ∧ as.mapM f = .error e := by
  rw [List.mapM_cons]
  cases f a with
  | error e' => simp
  | ok b => cases as.mapM f <;> simp

/-- A list of computations fails at the first of them that does. -/
lemma mapM_eq_error {f : α → Except ε β} {as : List α} {e : ε} :
    as.mapM f = .error e ↔ ∃ before a later, as = before ++ a :: later ∧
      (∀ b ∈ before, ∃ c, f b = .ok c) ∧ f a = .error e := by
  induction as with
  | nil => simp
  | cons a as ih =>
      rw [mapM_cons_eq_error, ih]
      constructor
      · rintro (ha | ⟨ha, before, a', later, rfl, hbefore, ha'⟩)
        · exact ⟨[], a, as, rfl, List.forall_mem_nil _, ha⟩
        · exact ⟨a :: before, a', later, rfl, List.forall_mem_cons.mpr ⟨ha, hbefore⟩, ha'⟩
      · rintro ⟨before, a', later, heq, hbefore, ha'⟩
        cases before with
        | nil =>
            obtain ⟨rfl, rfl⟩ := List.cons.inj heq
            exact .inl ha'
        | cons b before =>
            obtain ⟨rfl, rfl⟩ := List.cons.inj heq
            obtain ⟨ha, hbefore⟩ := List.forall_mem_cons.mp hbefore
            exact .inr ⟨ha, before, a', later, rfl, hbefore, ha'⟩

/-! ### Lists in pairs -/

/-- What holds of the result of each of some items holds of all the results. -/
lemma forall_mem_of_forall₂ {P : β → Prop} {as : List α} {bs : List β}
    (h : List.Forall₂ (fun _ b => P b) as bs) : ∀ b ∈ bs, P b := by
  induction h with
  | nil => exact List.forall_mem_nil P
  | cons hb _ ih => exact List.forall_mem_cons.mpr ⟨hb, ih⟩

/-- Images that agree one by one are the same list. -/
lemma map_eq_of_forall₂ {γ : Type} {f : α → γ} {g : β → γ} {as : List α} {bs : List β}
    (h : List.Forall₂ (fun a b => f a = g b) as bs) : as.map f = bs.map g := by
  induction h with
  | nil => rfl
  | cons hab _ ih => rw [List.map_cons, List.map_cons, hab, ih]

/-- What is the same for items in pairs is the same for all of them. -/
lemma forall_mem_congr_of_forall₂ {P : α → Prop} {Q : β → Prop} {as : List α} {bs : List β}
    (h : List.Forall₂ (fun a b => P a ↔ Q b) as bs) : (∀ a ∈ as, P a) ↔ ∀ b ∈ bs, Q b := by
  induction h with
  | nil => simp
  | cons hab _ ih => rw [List.forall_mem_cons, List.forall_mem_cons, hab, ih]

/-- Items that are related in pairs to items that are themselves related in pairs to others. -/
lemma forall₂_trans {γ : Type} {R : α → β → Prop} {S : β → γ → Prop} {T : α → γ → Prop}
    {as : List α} {bs : List β} {cs : List γ} (h : List.Forall₂ R as bs)
    (h' : List.Forall₂ S bs cs) (hT : ∀ a b c, R a b → S b c → T a c) : List.Forall₂ T as cs := by
  induction h generalizing cs with
  | nil =>
      cases h'
      exact .nil
  | cons hab _ ih =>
      cases h' with
      | cons hbc h' => exact .cons (hT _ _ _ hab hbc) (ih h')

/-! ### The first of some errors -/

/-- A computation fails with the first of some errors, and succeeds if there are
none. -/
def FailsWithFirst (x : Except ε α) (errors : List ε) : Prop :=
  ∀ e, x = .error e ↔ errors.head? = some e

namespace FailsWithFirst

lemma ok (a : α) : FailsWithFirst (.ok a : Except ε α) [] := by
  intro e
  simp

lemma error (e : ε) : FailsWithFirst (.error e : Except ε α) [e] := by
  intro e'
  simp

/-- It succeeds exactly if there are no errors. -/
lemma succeeds {x : Except ε α} {es : List ε} (h : FailsWithFirst x es) :
    (∃ a, x = .ok a) ↔ es = [] := by
  cases x with
  | ok a =>
      cases es with
      | nil => simp
      | cons e es => simp [FailsWithFirst] at h
  | error e =>
      have hhead := (h e).mp rfl
      cases es with
      | nil => cases hhead
      | cons e es => simp

/-- The errors of a sequence are those of the first computation, then those of the
second one. -/
lemma bind {x : Except ε α} {f : α → Except ε β} {es es' : List ε} (hx : FailsWithFirst x es)
    (hf : ∀ a, x = .ok a → FailsWithFirst (f a) es') : FailsWithFirst (x >>= f) (es ++ es') := by
  intro e
  cases x with
  | error e₀ =>
      have hhead := (hx e₀).mp rfl
      rw [error_bind, List.head?_append, hhead]
      simp
  | ok a =>
      have hnil : es = [] := by
        cases es with
        | nil => rfl
        | cons e₀ es => simp [FailsWithFirst] at hx
      rw [ok_bind, hnil, List.nil_append]
      exact hf a rfl e

/-- What is done with the result does not fail. -/
lemma map {x : Except ε α} {es : List ε} (hx : FailsWithFirst x es) (f : α → β) :
    FailsWithFirst (do return f (← x)) es := by
  have h := hx.bind (f := fun a => (pure (f a) : Except ε β)) fun a _ => ok (f a)
  rwa [List.append_nil] at h

end FailsWithFirst

/-! ### Two computations that end alike -/

/-- Two computations fail with one error, or both succeed with related results. -/
inductive Alike (R : α → β → Prop) : Except ε α → Except ε β → Prop where
  | ok {a : α} {b : β} : R a b → Alike R (.ok a) (.ok b)
  | error (e : ε) : Alike R (.error e) (.error e)

/-- A computation ends alike with itself if its result is related to itself. -/
lemma Alike.of_self {R : α → α → Prop} {x : Except ε α} (h : ∀ a, x = .ok a → R a a) :
    Alike R x x := by
  cases x with
  | error e => exact .error e
  | ok a => exact .ok (h a rfl)

/-- Results are related that are made of related results. -/
lemma Alike.map {γ δ : Type} {R : α → β → Prop} {S : γ → δ → Prop} {x : Except ε α}
    {y : Except ε β} {f : α → γ} {g : β → δ} (h : Alike R x y)
    (hfg : ∀ a b, R a b → S (f a) (g b)) :
    Alike S (do return f (← x)) (do return g (← y)) := by
  cases h with
  | ok hab => exact .ok (hfg _ _ hab)
  | error e => exact .error e

/-- Sequences end alike if their steps do. -/
lemma Alike.bind {γ δ : Type} {R : α → β → Prop} {S : γ → δ → Prop} {x : Except ε α}
    {y : Except ε β} {f : α → Except ε γ} {g : β → Except ε δ} (h : Alike R x y)
    (hfg : ∀ a b, R a b → Alike S (f a) (g b)) : Alike S (x >>= f) (y >>= g) := by
  cases h with
  | ok hab => exact hfg _ _ hab
  | error e => exact .error e

end EventQuery
