import EventQuery.Proofs.Induction
import EventQuery.Proofs.Pattern.Pieces

/-!
When writing a query fails.

The only things that cannot be written are numbers that are not finite, as far as
they are visible: the literals of conditions and the amounts of deltas, in the order
in which a pattern is written with them. Writing fails at the first of them.

* `VisibleNumber`, `Pattern.visibleNumbers`: the doubles that are written.
* `FailsAt`: a computation fails exactly if some visible number is not finite, with
  the complaint about the first one.
* `encode_fails_at_nonFinite`: patterns, streams and selections are written like
  that under both number policies.
-/

namespace EventQuery

/-- A double that stands in a query. -/
inductive VisibleNumber where
  /-- The literal that a field is compared with. -/
  | operand (value : Double)
  /-- The amount of a unit in a delta. -/
  | amount (value : Double)

namespace VisibleNumber

/-- Whether the number can be written. -/
def isFinite : VisibleNumber → Bool
  | operand (.finite _) => true
  | amount (.finite _) => true
  | _ => false

/-- The complaint about a number that cannot be written. -/
def error? : VisibleNumber → Option QueryError
  | operand (.nonFinite x) => some (.invalidScalar (.number x))
  | amount (.nonFinite x) => some (.nonFiniteDelta x)
  | _ => none

lemma error?_eq_none_iff (n : VisibleNumber) : n.error? = none ↔ n.isFinite = true := by
  rcases n with (x | x) | (x | x) <;> simp [error?, isFinite]

end VisibleNumber

/-- The doubles in a piece; the units of a delta go from years to seconds. -/
def Piece.numbers : Piece → List VisibleNumber
  | condition (.mk _ _ (.double x) _) => [.operand x]
  | condition _ => []
  | delta d => (TimeUnit.all.filterMap d.amount?).map .amount

/-- The doubles that a pattern is written with, in order. -/
def Pattern.visibleNumbers (inSwitch : Bool) (p : Pattern) : List VisibleNumber :=
  (p.pieces inSwitch).flatMap Piece.numbers

/-- The doubles that a stream is written with, in order. -/
def Stream.visibleNumbers (s : Stream) : List VisibleNumber := s.pieces.flatMap Piece.numbers

/-- A computation fails exactly if some of these numbers is not finite, with the
complaint about the first one. -/
structure FailsAt {α : Type} (x : Except QueryError α) (ns : List VisibleNumber) : Prop where
  fails : (∃ e, x = .error e) ↔ ∃ n ∈ ns, n.isFinite = false
  first : ∀ e, x = .error e ↔ ns.findSome? VisibleNumber.error? = some e

/-! ### The complaints about a list of pieces -/

/-- The complaints about all pieces, in order. -/
def complaints (ps : List Piece) : List QueryError :=
  (ps.flatMap Piece.numbers).filterMap VisibleNumber.error?

lemma complaints_append (ps qs : List Piece) :
    complaints (ps ++ qs) = complaints ps ++ complaints qs := by
  rw [complaints, List.flatMap_append, List.filterMap_append]
  rfl

lemma complaints_cons (p : Piece) (ps : List Piece) :
    complaints (p :: ps) = complaints [p] ++ complaints ps := complaints_append [p] ps

/-- Failing with the first complaint is failing at the first number that is not
finite. -/
lemma FailsWithFirst.failsAt {α : Type} {x : Except QueryError α} {ps : List Piece}
    (h : FailsWithFirst x (complaints ps)) : FailsAt x (ps.flatMap Piece.numbers) := by
  have hfirst : ∀ e, x = .error e
      ↔ (ps.flatMap Piece.numbers).findSome? VisibleNumber.error? = some e := by
    intro e
    rw [h e, complaints, List.head?_filterMap]
  refine ⟨?_, hfirst⟩
  have hnone : (ps.flatMap Piece.numbers).findSome? VisibleNumber.error? = none
      ↔ ∀ n ∈ ps.flatMap Piece.numbers, n.isFinite = true := by
    simp only [List.findSome?_eq_none_iff, VisibleNumber.error?_eq_none_iff]
  constructor
  · rintro ⟨e, he⟩
    by_contra hall
    push Not at hall
    have hnot := hnone.mpr fun n hn => by simpa using hall n hn
    rw [(hfirst e).mp he] at hnot
    cases hnot
  · rintro ⟨n, hn, hfin⟩
    cases hsome : (ps.flatMap Piece.numbers).findSome? VisibleNumber.error? with
    | some e => exact ⟨e, (hfirst e).mpr hsome⟩
    | none =>
        rw [hnone.mp hsome n hn] at hfin
        cases hfin

/-! ### Literals and deltas -/

lemma Scalar.failsWithFirst (path : List String) (op : Operator) (x : Scalar)
    (stream : Option Stream) (policy : NumberPolicy) :
    FailsWithFirst (x.encode policy) (complaints [.condition (.mk path op x stream)]) := by
  refine FailsWithFirst.map ?_ _
  rcases x with n | (x | x) | b | s
  · exact .ok _
  · cases policy with
    | double => exact .ok _
    | integralAsInt =>
        cases hx : x.toInt64? <;> simp only [Scalar.value, hx] <;> exact .ok _
  · exact .error _
  · exact .ok _
  · exact .ok _

lemma Delta.amount_failsWithFirst (x : Double) :
    FailsWithFirst (encodeAmount x) (VisibleNumber.amount x).error?.toList := by
  rcases x with x | x
  · rw [encodeAmount]
    cases x.toInt64? <;> exact .ok _
  · exact .error _

lemma Delta.units_failsWithFirst (d : Delta) (us : List TimeUnit) :
    FailsWithFirst (d.encodeUnits us)
      (((us.filterMap d.amount?).map .amount).filterMap VisibleNumber.error?) := by
  induction us with
  | nil => exact .ok _
  | cons u us ih =>
      rw [encodeUnits]
      cases hu : d.amount? u with
      | none =>
          rw [List.filterMap_cons_none hu]
          exact ih
      | some x =>
          have hcons : (VisibleNumber.amount x :: (us.filterMap d.amount?).map .amount).filterMap
              VisibleNumber.error? = (VisibleNumber.amount x).error?.toList ++
                ((us.filterMap d.amount?).map .amount).filterMap VisibleNumber.error? := by
            cases h : (VisibleNumber.amount x).error? <;> simp [h]
          rw [List.filterMap_cons_some hu, List.map_cons, hcons]
          exact (amount_failsWithFirst x).bind fun v _ => ih.map _

lemma Delta.failsWithFirst (d : Delta) : FailsWithFirst d.encode (complaints [.delta d]) := by
  have hunits := (d.units_failsWithFirst TimeUnit.all).map Json.object
  rwa [complaints, List.flatMap_singleton]

/-- An optional delta is set unless it cannot be written. -/
lemma setDelta_failsWithFirst (key : String) (d : Option Delta) (o : Object) :
    FailsWithFirst (setDelta key d o) (complaints (d.toList.map .delta)) := by
  cases d with
  | none => exact .ok o
  | some d => exact d.failsWithFirst.map _

/-- Two optional deltas are set one after the other. -/
lemma setDeltas_failWithFirst (key key' : String) (d d' : Option Delta) (o : Object) :
    FailsWithFirst (setDelta key d o >>= setDelta key' d') (complaints (deltaPieces d d')) := by
  rw [deltaPieces, List.map_append, complaints_append]
  exact (setDelta_failsWithFirst key d o).bind fun u _ => setDelta_failsWithFirst key' d' u

/-! ### Patterns -/

/-- Parts fail one after the other. -/
lemma encodeParts_failsWithFirst {cx : EncodeContext} {ps : List Pattern}
    (h : ∀ p ∈ ps, FailsWithFirst (p.encode cx) (complaints (p.pieces cx.inSwitch))) :
    FailsWithFirst (encodeParts cx ps) (complaints (partPieces cx.inSwitch ps)) := by
  induction ps with
  | nil => exact .ok _
  | cons p ps ih =>
      obtain ⟨hp, hps⟩ := List.forall_mem_cons.mp h
      rw [encodeParts, partPieces, complaints_append]
      exact hp.bind fun o _ => (ih hps).map _

lemma encodeStream_failsWithFirst {s : Stream}
    (h : ∀ f, s.filter? = some f → ∀ cx : EncodeContext,
      FailsWithFirst (f.encode cx) (complaints (f.pieces cx.inSwitch))) (cx : EncodeContext) :
    FailsWithFirst (s.encode cx) (complaints s.pieces) := by
  obtain ⟨name, f | f⟩ := s
  · rw [Stream.encode, Stream.pieces]
    exact .ok _
  · rw [Stream.encode, Stream.pieces]
    exact (h f rfl cx.enterFilter).map _

/-- A pattern fails with the first complaint about what it is written with. -/
lemma encode_failsWithFirst (p : Pattern) : ∀ cx : EncodeContext,
    FailsWithFirst (p.encode cx) (complaints (p.pieces cx.inSwitch)) := by
  induction p using Pattern.ind with
  | unbound path op x =>
      intro cx
      rw [Pattern.encode, Condition.encode, Pattern.pieces, Condition.pieces]
      exact (x.failsWithFirst path op none cx.numbers).map _
  | bound path op x s ih =>
      intro cx
      rw [Pattern.encode, Condition.encode, Pattern.pieces, Condition.pieces, complaints_cons]
      refine (x.failsWithFirst path op (some s) cx.numbers).bind fun arg _ => ?_
      cases cx.inSwitch with
      | true => exact .ok _
      | false => exact (encodeStream_failsWithFirst ih cx).map _
  | and l r ihl ihr =>
      intro cx
      rw [Pattern.encode, Pattern.pieces, complaints_append]
      exact (ihl cx).bind fun o _ => (ihr cx).map _
  | or l r ihl ihr =>
      intro cx
      rw [Pattern.encode, Pattern.pieces, complaints_append]
      exact (ihl cx).bind fun o _ => (ihr cx).map _
  | serial ps ih =>
      intro cx
      rw [Pattern.encode, Pattern.pieces]
      exact (encodeParts_failsWithFirst fun p hp => ih p hp cx).map _
  | parallel kind ps ih =>
      intro cx
      rw [Pattern.encode, Pattern.pieces]
      exact (encodeParts_failsWithFirst fun p hp => ih p hp cx).map _
  | spacing p after within ih =>
      intro cx
      rw [Pattern.encode, Pattern.pieces, complaints_append]
      exact (ih cx).bind fun o _ => setDeltas_failWithFirst "after" "within" after within o
  | width p min max ih =>
      intro cx
      rw [Pattern.encode, Pattern.pieces, complaints_append]
      exact (ih cx).bind fun o _ =>
        (setDeltas_failWithFirst "at-least" "at-most" min max []).map _
  | switch s ps ih =>
      intro cx
      rw [Pattern.encode, Pattern.pieces]
      exact (encodeParts_failsWithFirst fun p hp => ih p hp cx.enterSwitch).map _

/-- **Writing fails exactly at numbers that are not finite.** A pattern, in a switch
or not, a stream and a selection fail under either policy exactly if a double that
they are written with is not finite, with the complaint about the first one; so do
the queries made of them. -/
theorem encode_fails_at_nonFinite (policy : NumberPolicy) :
    (∀ p inSwitch, FailsAt (Pattern.encode ⟨policy, inSwitch⟩ p) (p.visibleNumbers inSwitch)) ∧
    (∀ p, FailsAt ((Query.pattern p).encode ⟨policy⟩) (p.visibleNumbers false)) ∧
    (∀ c, FailsAt ((Query.condition c).encode ⟨policy⟩)
      ((Pattern.condition c).visibleNumbers false)) ∧
    (∀ s, FailsAt ((Query.stream s).encode ⟨policy⟩) s.visibleNumbers) ∧
    ∀ s, FailsAt ((Query.selection s).encode ⟨policy⟩) (s.root.visibleNumbers false) := by
  have hpattern := fun p => encode_failsWithFirst p (.top policy)
  refine ⟨fun p inSwitch => (encode_failsWithFirst p ⟨policy, inSwitch⟩).failsAt,
    fun p => ((hpattern p).map _).failsAt, fun c => ((hpattern (.condition c)).map _).failsAt,
    fun s => ?_, fun s => (((hpattern s.root).map _).map _).failsAt⟩
  exact ((encodeStream_failsWithFirst (fun f _ => encode_failsWithFirst f) (.top policy)).map
    Json.object).failsAt

end EventQuery
