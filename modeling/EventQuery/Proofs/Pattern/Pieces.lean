import EventQuery.Proofs.Pattern.Timing
import EventQuery.Query

/-!
What a pattern is written with, in order.

The literals of a query stand in its conditions, and its amounts of time in the
deltas of its wrappers. A condition comes before the filter of its stream, and
what is inside a wrapper before the deltas of the wrapper; parts come from left to
right. Inside a switch the streams of conditions are not written, and the filter
of the stream of a switch never is.

* `Pattern.pieces`, `Stream.pieces`, `Query.pieces`: the conditions and deltas that
  are written, in that order.
* `Pattern.writtenConditions`, `Stream.writtenConditions`,
  `Query.writtenConditions`: the conditions alone.
-/

namespace EventQuery

/-- A piece of a query that holds numbers: a condition or a delta. -/
inductive Piece where
  | condition (value : Condition)
  | delta (value : Delta)

/-- The condition of a piece. -/
def Piece.condition? : Piece → Option Condition
  | condition c => some c
  | delta _ => none

/-- The deltas of a wrapper. -/
def deltaPieces (first second : Option Delta) : List Piece :=
  (first.toList ++ second.toList).map .delta

mutual

/-- The pieces that a pattern is written with, in a switch or not. -/
def Pattern.pieces (inSwitch : Bool) : Pattern → List Piece
  | .condition c => c.pieces inSwitch
  | .and l r => l.pieces inSwitch ++ r.pieces inSwitch
  | .or l r => l.pieces inSwitch ++ r.pieces inSwitch
  | .serial ps => partPieces inSwitch ps
  | .parallel _ ps => partPieces inSwitch ps
  | .spacing p after within => p.pieces inSwitch ++ deltaPieces after within
  | .width p min max => p.pieces inSwitch ++ deltaPieces min max
  | .switch _ ps => partPieces true ps

/-- The pieces of a list of patterns. -/
def partPieces (inSwitch : Bool) : List Pattern → List Piece
  | [] => []
  | p :: ps => p.pieces inSwitch ++ partPieces inSwitch ps

/-- The pieces of a condition: itself, and outside a switch those of its
stream. -/
def Condition.pieces (inSwitch : Bool) : Condition → List Piece
  | .mk path op x none => [.condition (.mk path op x none)]
  | .mk path op x (some s) =>
    .condition (.mk path op x (some s)) :: (if inSwitch then [] else s.pieces)

/-- The pieces of a stream: those of its filter. -/
def Stream.pieces : Stream → List Piece
  | .mk _ none => []
  | .mk _ (some f) => f.pieces false

end

/-- The pieces that a query is written with; a switch that is not bound is not
written. -/
def Query.pieces : Query → List Piece
  | .selection s => s.root.pieces false
  | .pattern p => p.pieces false
  | .condition c => c.pieces false
  | .stream s => s.pieces
  | .switch _ => []

/-- The conditions that a pattern is written with. -/
def Pattern.writtenConditions (inSwitch : Bool) (p : Pattern) : List Condition :=
  (p.pieces inSwitch).filterMap Piece.condition?

/-- The conditions that a stream is written with. -/
def Stream.writtenConditions (s : Stream) : List Condition := s.pieces.filterMap Piece.condition?

/-- The conditions that a query is written with. -/
def Query.writtenConditions (q : Query) : List Condition := q.pieces.filterMap Piece.condition?

lemma partPieces_eq_flatMap (inSwitch : Bool) (ps : List Pattern) :
    partPieces inSwitch ps = ps.flatMap (Pattern.pieces inSwitch) := by
  induction ps with
  | nil => rfl
  | cons p ps ih => rw [partPieces, ih, List.flatMap_cons]

lemma Stream.writtenConditions_unfiltered (name : String) :
    (mk name none).writtenConditions = [] := rfl

lemma Stream.writtenConditions_filtered (name : String) (f : Pattern) :
    (mk name (some f)).writtenConditions = f.writtenConditions false := rfl

/-! ### Conditions of combined patterns -/

namespace Pattern

variable {inSwitch : Bool}

lemma conditions_deltaPieces (first second : Option Delta) :
    (deltaPieces first second).filterMap Piece.condition? = [] := by
  cases first <;> cases second <;> rfl

lemma writtenConditions_unbound (path : List String) (op : Operator) (x : Scalar) :
    writtenConditions inSwitch (.condition (.mk path op x none)) = [.mk path op x none] := rfl

lemma writtenConditions_bound (path : List String) (op : Operator) (x : Scalar) (s : Stream) :
    writtenConditions inSwitch (.condition (.mk path op x (some s)))
      = .mk path op x (some s) :: (if inSwitch then [] else s.writtenConditions) := by
  cases inSwitch <;> rfl

lemma writtenConditions_and (l r : Pattern) : (l.and r).writtenConditions inSwitch
    = l.writtenConditions inSwitch ++ r.writtenConditions inSwitch := List.filterMap_append

lemma writtenConditions_or (l r : Pattern) : (l.or r).writtenConditions inSwitch
    = l.writtenConditions inSwitch ++ r.writtenConditions inSwitch := List.filterMap_append

lemma conditions_partPieces (ps : List Pattern) :
    (partPieces inSwitch ps).filterMap Piece.condition?
      = ps.flatMap (writtenConditions inSwitch) := by
  rw [partPieces_eq_flatMap, List.filterMap_flatMap]
  rfl

lemma writtenConditions_serial (ps : List Pattern) :
    (serial ps).writtenConditions inSwitch = ps.flatMap (writtenConditions inSwitch) :=
  conditions_partPieces ps

lemma writtenConditions_parallel (kind : Parallel) (ps : List Pattern) :
    (parallel kind ps).writtenConditions inSwitch = ps.flatMap (writtenConditions inSwitch) :=
  conditions_partPieces ps

lemma writtenConditions_switch (s : Stream) (ps : List Pattern) :
    (switch s ps).writtenConditions inSwitch = ps.flatMap (writtenConditions true) :=
  conditions_partPieces ps

/-- The deltas of a wrapper add no conditions. -/
lemma conditions_append_deltaPieces (p : Pattern) (first second : Option Delta) :
    (p.pieces inSwitch ++ deltaPieces first second).filterMap Piece.condition?
      = p.writtenConditions inSwitch := by
  rw [List.filterMap_append, conditions_deltaPieces, List.append_nil]
  rfl

lemma writtenConditions_spacing (p : Pattern) (after within : Option Delta) :
    (spacing p after within).writtenConditions inSwitch = p.writtenConditions inSwitch :=
  conditions_append_deltaPieces p after within

lemma writtenConditions_width (p : Pattern) (min max : Option Delta) :
    (width p min max).writtenConditions inSwitch = p.writtenConditions inSwitch :=
  conditions_append_deltaPieces p min max

/-- Wrappers have no conditions. -/
lemma writtenConditions_core (p : Pattern) :
    p.core.writtenConditions inSwitch = p.writtenConditions inSwitch := by
  induction p using wrapper_ind with
  | core p hp => rw [core_of_isCore hp]
  | spacing p after within ih => rw [core, ih, writtenConditions_spacing]
  | width p min max ih => rw [core, ih, writtenConditions_width]

/-- A sequence is extended by the conditions of what follows. -/
lemma writtenConditions_followedBy (p next : Pattern) :
    (p.followedBy next).writtenConditions inSwitch
      = p.writtenConditions inSwitch ++ next.writtenConditions inSwitch := by
  cases p <;> simp [followedBy, writtenConditions_serial]

/-- The conditions of operands joined from the right are those of the operands, in
order. -/
lemma writtenConditions_foldRight {join : Pattern → Pattern → Pattern}
    (hjoin : ∀ l r, (join l r).writtenConditions inSwitch
      = l.writtenConditions inSwitch ++ r.writtenConditions inSwitch)
    (first : Pattern) (rest : List Pattern) :
    (foldRight join first rest).writtenConditions inSwitch
      = (first :: rest).flatMap (writtenConditions inSwitch) := by
  induction rest generalizing first with
  | nil => simp [foldRight]
  | cons next rest ih => rw [foldRight, hjoin, ih, ← List.flatMap_cons]

end Pattern

end EventQuery
