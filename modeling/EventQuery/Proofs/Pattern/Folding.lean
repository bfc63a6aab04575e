import EventQuery.Proofs.Outcome
import EventQuery.Selection
import Mathlib.Data.List.Induction

/-!
Patterns that are joined from the right.

Many patterns are joined to binary ones along a spine to the right: every node of it has one
operand on its left and the rest on its right. So the operands can be read off the spine again,
if one knows how many there are, since the last of them may go on like the spine itself. And
the operands at the end may as well be joined first.

* `Junction`: the two ways of joining patterns; `Junction.spine?`: the operands on a spine.
* `Junction.combine_concat`: from the last operand on, each one is joined to what comes after.
* `Junction.combine_eq_ok_iff`: what is joined is a spine of the operands.
* `Junction.combine_group`: operands at the end can be joined first.
* `operands_folded_right`: all of it together, and selections.
-/

namespace EventQuery

/-- The two ways of joining patterns. -/
inductive Junction where
  | conj
  | disj

namespace Junction

/-- Two patterns, joined. -/
def join : Junction → Pattern → Pattern → Pattern
  | conj => .and
  | disj => .or

/-- Any positive number of patterns, joined. -/
def combine : Junction → List Pattern → Except QueryError Pattern
  | conj => Pattern.conj
  | disj => Pattern.disj

/-- The operation that fails if there is nothing to join. -/
def combinator : Junction → Combinator
  | conj => .and
  | disj => .or

/-- The two operands of a pattern that was joined in this way. -/
def operands? : Junction → Pattern → Option (Pattern × Pattern)
  | conj, .and lhs rhs => some (lhs, rhs)
  | disj, .or lhs rhs => some (lhs, rhs)
  | _, _ => none

/-- The operands on a spine with this number of nodes: the left ones on the way down to the
right, then the last right one. -/
def spine? (j : Junction) : Nat → Pattern → Option (List Pattern)
  | 0, p => some [p]
  | nodes + 1, p => (j.operands? p).bind fun (lhs, rhs) => (j.spine? nodes rhs).map (lhs :: ·)

variable {j : Junction} {p : Pattern}

lemma operands?_eq_some {lhs rhs : Pattern} :
    j.operands? p = some (lhs, rhs) ↔ p = j.join lhs rhs := by
  cases j <;> cases p <;> simp [operands?, join]

lemma combine_nil (j : Junction) : j.combine [] = .error (.emptyCombinator j.combinator) := by
  cases j <;> rfl

lemma combine_cons (j : Junction) (first : Pattern) (rest : List Pattern) :
    j.combine (first :: rest) = .ok (Pattern.foldRight j.join first rest) := by
  cases j <;> rfl

/-! ### From the last operand on -/

lemma foldRight_concat (join : Pattern → Pattern → Pattern) (first : Pattern)
    (rest : List Pattern) (last : Pattern) :
    Pattern.foldRight join first (rest ++ [last]) = join first (rest.foldr join last) := by
  induction rest generalizing first with
  | nil => rfl
  | cons next rest ih => rw [List.cons_append, Pattern.foldRight, ih, List.foldr_cons]

/-- The last operand stays as it is, and each one before it is joined to what comes after. -/
theorem combine_concat (j : Junction) (front : List Pattern) (last : Pattern) :
    j.combine (front ++ [last]) = .ok (front.foldr j.join last) := by
  cases front with
  | nil => rw [List.nil_append, combine_cons, Pattern.foldRight, List.foldr_nil]
  | cons first rest => rw [List.cons_append, combine_cons, foldRight_concat, List.foldr_cons]

/-- That is the same as going backwards through the operands. -/
theorem combine_concat_eq_foldl (j : Junction) (front : List Pattern) (last : Pattern) :
    j.combine (front ++ [last])
      = .ok (front.reverse.foldl (fun joined p => j.join p joined) last) := by
  rw [combine_concat, List.foldl_reverse]

/-! ### The spine -/

/-- A pattern has these operands on its spine exactly if they were joined from the right. -/
lemma spine?_eq_some_iff {front : List Pattern} {last : Pattern} :
    j.spine? front.length p = some (front ++ [last]) ↔ p = front.foldr j.join last := by
  induction front generalizing p with
  | nil => simp [spine?]
  | cons first rest ih =>
      rw [List.length_cons, spine?, Option.bind_eq_some_iff, List.foldr_cons]
      constructor
      · rintro ⟨⟨lhs, rhs⟩, hp, h⟩
        obtain ⟨operands, hrest, heq⟩ := Option.map_eq_some_iff.mp h
        obtain ⟨rfl, rfl⟩ := List.cons.inj heq
        rw [operands?_eq_some.mp hp, ih.mp hrest]
      · intro hp
        refine ⟨(first, rest.foldr j.join last), operands?_eq_some.mpr hp, ?_⟩
        exact Option.map_eq_some_iff.mpr ⟨_, ih.mpr rfl, rfl⟩

/-- **What is joined is a spine of the operands**, with one node less than there are operands,
and nothing else has that spine. -/
theorem combine_eq_ok_iff {xs : List Pattern} :
    j.combine xs = .ok p ↔ j.spine? (xs.length - 1) p = some xs := by
  rcases List.eq_nil_or_concat' xs with rfl | ⟨front, last, rfl⟩
  · simp [combine_nil, spine?]
  · rw [combine_concat, List.length_append, List.length_singleton, Nat.add_sub_cancel,
      spine?_eq_some_iff, Except.ok.injEq, eq_comm]

/-- **Operands at the end can be joined first.** -/
theorem combine_group (j : Junction) (xs : List Pattern) (first : Pattern)
    (rest : List Pattern) : ∃ p, j.combine (first :: rest) = .ok p ∧
      j.combine (xs ++ first :: rest) = j.combine (xs ++ [p]) := by
  obtain ⟨front, last, h⟩ : ∃ front last, first :: rest = front ++ [last] :=
    (List.eq_nil_or_concat' _).resolve_left (List.cons_ne_nil _ _)
  refine ⟨front.foldr j.join last, by rw [h, combine_concat], ?_⟩
  rw [h, ← List.append_assoc, combine_concat, combine_concat, List.foldr_append]

lemma combine_eq_error_iff {xs : List Pattern} {e : QueryError} :
    j.combine xs = .error e ↔ xs = [] ∧ e = .emptyCombinator j.combinator := by
  cases xs with
  | nil => simp [combine_nil, eq_comm]
  | cons first rest => simp [combine_cons]

end Junction

/-! ### Selections -/

namespace Window

variable {w : Window} {xs : List Pattern}

lemma select_of_ne_nil (h : xs ≠ []) :
    w.select xs = (Pattern.conj xs).map fun p => ⟨p, w⟩ := by
  cases xs with
  | nil => exact absurd rfl h
  | cons first rest => rfl

/-- The root of a selection is the conjunction of its patterns. -/
lemma select_eq_ok_iff {s : Selection} :
    w.select xs = .ok s ↔ Pattern.conj xs = .ok s.root ∧ s.window = w := by
  obtain ⟨root, window⟩ := s
  cases xs with
  | nil => simp [select, Pattern.conj]
  | cons first rest => simp [select, Pattern.conj, eq_comm]

lemma select_eq_error_iff {e : QueryError} :
    w.select xs = .error e ↔ xs = [] ∧ e = .emptySelection := by
  cases xs with
  | nil => simp [select, eq_comm]
  | cons first rest => simp [select]

/-- Patterns at the end can be joined first, and the selection stays the same. -/
lemma select_group (w : Window) (xs : List Pattern) (first : Pattern) (rest : List Pattern) :
    ∃ p, Pattern.conj (first :: rest) = .ok p ∧
      w.select (xs ++ first :: rest) = w.select (xs ++ [p]) := by
  obtain ⟨p, hp, hgroup⟩ := Junction.conj.combine_group xs first rest
  refine ⟨p, hp, ?_⟩
  rw [select_of_ne_nil (by simp), select_of_ne_nil (by simp)]
  exact congrArg (Except.map fun p => (⟨p, w⟩ : Selection)) hgroup

end Window

/-- **Operands are folded to the right.** Patterns are joined by going backwards through the
operands, from the last one on. Patterns joined by `and` or by `or` are exactly the
operands on a spine to the right with one node less, in order and as they were; an operand
that is itself joined in this way is not taken apart. Operands at the end may be joined first.
Only no operands at all cannot be joined. A selection has the conjunction of its patterns at
its root, so the patterns at its end may be joined first, too, and only a selection of no
patterns fails, with an error of its own. -/
theorem operands_folded_right (j : Junction) (w : Window) :
    (∀ front last, j.combine (front ++ [last])
      = .ok (front.reverse.foldl (fun joined p => j.join p joined) last)) ∧
    (∀ xs p, j.combine xs = .ok p ↔ j.spine? (xs.length - 1) p = some xs) ∧
    (∀ xs first rest, ∃ p, j.combine (first :: rest) = .ok p ∧
      j.combine (xs ++ first :: rest) = j.combine (xs ++ [p])) ∧
    (∀ xs e, j.combine xs = .error e ↔ xs = [] ∧ e = .emptyCombinator j.combinator) ∧
    (∀ xs s, w.select xs = .ok s ↔ Pattern.conj xs = .ok s.root ∧ s.window = w) ∧
    (∀ xs first rest, ∃ p, Pattern.conj (first :: rest) = .ok p ∧
      w.select (xs ++ first :: rest) = w.select (xs ++ [p])) ∧
    ∀ xs e, w.select xs = .error e ↔ xs = [] ∧ e = .emptySelection :=
  ⟨j.combine_concat_eq_foldl, fun _ _ => Junction.combine_eq_ok_iff, j.combine_group,
    fun _ _ => Junction.combine_eq_error_iff, fun _ _ => Window.select_eq_ok_iff, w.select_group,
    fun _ _ => Window.select_eq_error_iff⟩

end EventQuery
