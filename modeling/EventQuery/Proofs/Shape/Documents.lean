import EventQuery.Proofs.Literal.Machine
import EventQuery.Proofs.Shape.Building

/-!
JSON documents as shapes.

A JSON object is read as a shape if there are only literals in it, at any depth; what is read is
one field after the other, so the first value that is no literal decides the error. The shape
asks each literal to be equal to itself, and that is what is written for it.

* `Json.leaves`: the values in a document that are no objects, with the names that lead to them,
  in the order of the text; `ofJson_failsWithFirst`: the first of them that is no literal decides.
* `leaves_of_ofJson`: the leaves of what is read are those of the document; `isFilled_of_ofJson`:
  it says something everywhere, unless an object is empty.
* `Pattern.IsConjunction`, `JoinsAll`: conditions joined by `and`, as a pattern and as an object;
  `Pattern.IsConjunction.exists_encode`: the one is written as the other.
* `Json.WrittenAs`: what is written for a literal of a document.
* `documents_become_conditions`: all of it together.
-/

namespace EventQuery

/-! ### The leaves of a document -/

/-- A value in a JSON value, with the names that lead to it. -/
structure PlacedValue where
  path : List String
  value : Json

/-- The value seen from one object further out. -/
def PlacedValue.under (key : String) (l : PlacedValue) : PlacedValue := ⟨key :: l.path, l.value⟩

mutual

/-- The values in a JSON value that are no objects, in the order of the text. -/
def Json.leaves : Json → List PlacedValue
  | .object ms => memberLeaves ms
  | v => [⟨[], v⟩]

/-- The leaves in the members of an object. -/
def memberLeaves : List (String × Json) → List PlacedValue
  | [] => []
  | (key, v) :: ms => v.leaves.map (PlacedValue.under key) ++ memberLeaves ms

end

lemma memberLeaves_eq_flatMap (ms : Object) :
    memberLeaves ms = ms.flatMap fun m => m.2.leaves.map (PlacedValue.under m.1) := by
  induction ms with
  | nil => rfl
  | cons m ms ih => rw [memberLeaves, ih, List.flatMap_cons]

namespace Json

/-- The complaint about a value that is neither a literal nor an object. -/
def offence? : Json → Option QueryError
  | null => some (.invalidScalar .null)
  | array _ => some (.invalidScalar .array)
  | _ => none

/-- The complaints about the leaves of a document, in order. -/
def offences (v : Json) : List QueryError := v.leaves.filterMap fun l => l.value.offence?

lemma offence?_eq_none_iff {v : Json} :
    v.offence? = none ↔ v ≠ null ∧ ∀ items, v ≠ array items := by
  cases v <;> simp [offence?]

/-- The leaves are values of the document. -/
lemma mem_subvalues_of_mem_leaves (v : Json) : ∀ l ∈ v.leaves, l.value ∈ v.subvalues := by
  induction v using Json.ind with
  | object ms ih =>
      intro l hl
      rw [leaves, memberLeaves_eq_flatMap] at hl
      obtain ⟨m, hm, hl⟩ := List.mem_flatMap.mp hl
      obtain ⟨inner, hinner, rfl⟩ := List.mem_map.mp hl
      rw [subvalues, memberSubvalues_eq_flatMap]
      exact List.mem_cons_of_mem _ (List.mem_flatMap.mpr ⟨m, hm, ih m hm inner hinner⟩)
  | _ =>
      intro l hl
      rw [List.mem_singleton.mp hl]
      exact mem_subvalues_self _

/-- Where no leaf is complained about, no value is. -/
lemma offence?_of_leaves (v : Json) (h : ∀ l ∈ v.leaves, l.value.offence? = none) :
    ∀ w ∈ v.subvalues, w.offence? = none := by
  induction v using Json.ind with
  | object ms ih =>
      rw [leaves, memberLeaves_eq_flatMap, List.forall_mem_flatMap] at h
      rw [forall_subvalues_object]
      exact ⟨rfl, fun m hm => ih m hm fun l hl => h m hm (l.under m.1) (List.mem_map_of_mem hl)⟩
  | array vs _ => exact absurd (h ⟨[], array vs⟩ (List.mem_singleton.mpr rfl)) (by simp [offence?])
  | _ => simpa [leaves, subvalues] using h

/-- No complaint is a document without `null` and without arrays. -/
lemma offences_eq_nil_iff {v : Json} :
    v.offences = [] ↔ ∀ w ∈ v.subvalues, w ≠ null ∧ ∀ items, w ≠ array items := by
  simp only [offences, List.filterMap_eq_nil_iff, ← offence?_eq_none_iff]
  exact ⟨offence?_of_leaves v, fun h l hl => h _ (mem_subvalues_of_mem_leaves v l hl)⟩

end Json

/-- Members are read up to the first complaint about their leaves. -/
lemma fieldsOfJson_failsWithFirst {ms : Object}
    (h : ∀ m ∈ ms, FailsWithFirst (Constraint.ofJson m.2) m.2.offences) :
    FailsWithFirst (fieldsOfJson ms) (Json.object ms).offences := by
  induction ms with
  | nil => exact .ok _
  | cons m ms ih =>
      obtain ⟨hm, hms⟩ := List.forall_mem_cons.mp h
      have hsplit : (Json.object (m :: ms)).offences
          = m.2.offences ++ (Json.object ms).offences := by
        simp only [Json.offences, Json.leaves, memberLeaves, List.filterMap_append,
          List.filterMap_map]
        rfl
      rw [fieldsOfJson, hsplit]
      exact hm.bind fun c _ => (ih hms).map _

/-- **A document is read up to the first complaint** about its leaves. -/
lemma ofJson_failsWithFirst (v : Json) : FailsWithFirst (Constraint.ofJson v) v.offences := by
  induction v using Json.ind with
  | null => exact .error _
  | bool b => exact .ok _
  | number n => cases n <;> exact .ok _
  | string s => exact .ok _
  | array vs _ => exact .error _
  | object ms ih =>
      rw [Constraint.ofJson]
      exact (fieldsOfJson_failsWithFirst ih).map _

/-- An object is read as a shape up to the first complaint about its leaves. -/
lemma Shape.ofJson_failsWithFirst (ms : Object) :
    FailsWithFirst (Shape.ofJson (.object ms)) (Json.object ms).offences := by
  rw [Shape.ofJson]
  exact (fieldsOfJson_failsWithFirst fun m _ => EventQuery.ofJson_failsWithFirst m.2).map _

/-! ### The leaves of what is read -/

/-- What is asked of a leaf of a document: to be equal to itself. -/
structure PlacedValue.IsAskedBy (l : PlacedValue) (d : Leaf) : Prop where
  path : d.path = l.path
  op : d.test.op = .eq
  operand : Scalar.ofJson l.value = .ok d.test.operand

/-- A literal is the only leaf of itself. -/
lemma leaves_of_literal {v : Json} {x : Scalar} (h : Scalar.ofJson v = .ok x) :
    v.leaves = [⟨[], v⟩] := by
  cases v with
  | object ms => cases h
  | _ => rfl

/-- What is read from a document has its leaves, in order. -/
lemma leaves_of_ofJson {v : Json} {c : Constraint} (h : Constraint.ofJson v = .ok c) :
    List.Forall₂ PlacedValue.IsAskedBy v.leaves c.leaves := by
  refine ofJson_induction
    (R := fun v c => List.Forall₂ PlacedValue.IsAskedBy v.leaves c.leaves) ?_ ?_ v c h
  · intro v x hx
    rw [leaves_of_literal hx]
    exact .cons ⟨rfl, rfl, hx⟩ .nil
  · intro ms fs hread
    rw [Json.leaves, Constraint.leaves, memberLeaves_eq_flatMap, fieldLeaves_eq_flatMap]
    refine List.rel_flatMap hread ?_
    rintro m e ⟨hname, hme⟩
    rw [List.forall₂_map_left_iff, List.forall₂_map_right_iff]
    exact hme.imp fun l d hld => ⟨congrArg₂ List.cons hname.symm hld.path, hld.op, hld.operand⟩

/-- What is read from a document says something everywhere, unless an object in it is empty. -/
lemma isFilled_of_ofJson {v : Json} {c : Constraint} (h : Constraint.ofJson v = .ok c) :
    (∀ w ∈ v.subvalues, w ≠ .object []) → c.IsFilled := by
  refine ofJson_induction
    (R := fun v c => (∀ w ∈ v.subvalues, w ≠ .object []) → c.IsFilled) ?_ ?_ v c h
  · exact fun v x _ _ => Constraint.isFilled_scalar x
  · intro ms fs hread hv
    rw [Json.forall_subvalues_object] at hv
    have hvalues := (List.forall₂_and_left _ _).mpr ⟨hv.2, hread⟩
    refine Constraint.isFilled_nested.mpr ⟨?_, ?_⟩
    · rintro rfl
      exact hv.1 (by rw [List.eq_nil_of_length_eq_zero hread.length_eq])
    · exact forall_mem_of_forall₂ (hvalues.imp fun m e h => h.2.2 h.1)

/-! ### Conjunctions -/

/-- Conditions joined by `and`. -/
inductive Pattern.IsConjunction : Pattern → Prop where
  | condition (c : Condition) : (Pattern.condition c).IsConjunction
  | and {l r : Pattern} : l.IsConjunction → r.IsConjunction → (l.and r).IsConjunction

lemma isConjunction_foldRight {p : Pattern} {ps : List Pattern}
    (h : ∀ q ∈ p :: ps, q.IsConjunction) : (Pattern.foldRight .and p ps).IsConjunction := by
  induction ps generalizing p with
  | nil => exact h p List.mem_cons_self
  | cons q ps ih =>
      obtain ⟨hp, hps⟩ := List.forall_mem_cons.mp h
      exact hp.and (ih hps)

/-- What is read from a document is bound to a conjunction. -/
lemma isConjunction_of_ofJson {v : Json} {c : Constraint} (h : Constraint.ofJson v = .ok c) :
    ∀ stream path p, c.bind stream path = .ok p → p.IsConjunction := by
  refine ofJson_induction
    (R := fun _ c => ∀ stream path p, c.bind stream path = .ok p → p.IsConjunction) ?_ ?_ v c h
  · intro v x _ stream path p hp
    cases hp
    exact .condition _
  · intro ms fs hread stream path p hp
    simp only [Constraint.bind, bind_eq_ok] at hp
    obtain ⟨ps, hps, hp⟩ := hp
    have hall := forall_mem_of_forall₂ (hread.imp fun m e h => h.2)
    have hbound := (List.forall₂_and_left _ _).mpr ⟨hall, bindFields_eq_ok hps⟩
    cases ps with
    | nil => cases hp
    | cons q ps =>
        cases hp
        exact isConjunction_foldRight
          (forall_mem_of_forall₂ (hbound.imp fun e q h => h.1 stream _ q h.2))

/-! ### Conjunctions, written -/

/-- An object that joins the objects of conditions by `&&`. -/
inductive JoinsAll : List Object → Object → Prop where
  | one (o : Object) : JoinsAll [o] o
  | and {os os' : List Object} {l r : Object} : JoinsAll os l → JoinsAll os' r →
      JoinsAll (os ++ os') (booleanObject "&&" l r)

/-- The object of a condition on a stream: with its literal and the stream as they are written. -/
def Condition.WrittenBelow (numbers : NumberPolicy) (stream : Object) (c : Condition)
    (o : Object) : Prop :=
  ∃ arg, c.operand.encode numbers = .ok arg ∧
    o = comparisonObject c.path c.op arg ++ [("stream", .object stream), spanMember]

/-- A conjunction of conditions on a stream is written as one, condition by condition, if the
stream and the literals can be written. -/
lemma Pattern.IsConjunction.exists_encode {p : Pattern} (hp : p.IsConjunction)
    {numbers : NumberPolicy} {stream : Stream} {written : Object}
    (hstream : stream.encode (.top numbers) = .ok written)
    (h : ∀ c ∈ p.leaves, c.stream? = some stream ∧ ∃ arg, c.operand.encode numbers = .ok arg) :
    ∃ o os, p.encode (.top numbers) = .ok o ∧ JoinsAll os o ∧
      List.Forall₂ (Condition.WrittenBelow numbers written) p.leaves os := by
  induction hp with
  | condition c =>
      obtain ⟨path, op, x, s⟩ := c
      obtain ⟨hs, arg, harg⟩ := h _ (List.mem_singleton.mpr rfl)
      cases hs
      refine ⟨_, _, ?_, .one _, .cons ⟨arg, harg, rfl⟩ .nil⟩
      have harg' : x.encode (EncodeContext.top numbers).numbers = .ok arg := harg
      rw [Pattern.encode, Condition.encode, harg', hstream]
      rfl
  | and _ _ ihl ihr =>
      rw [Pattern.leaves, List.forall_mem_append] at h
      obtain ⟨l, ls, hl, hls, hlw⟩ := ihl h.1
      obtain ⟨r, rs, hr, hrs, hrw⟩ := ihr h.2
      refine ⟨_, _, ?_, hls.and hrs, List.rel_append hlw hrw⟩
      rw [Pattern.encode, hl, hr]
      rfl

/-! ### Literals, written -/

/-- What is written for a literal of a document: the literal itself, and for an integer that does
not fit 64 bits with a sign the nearest double. -/
inductive Json.WrittenAs : Json → Object → Prop where
  | bool (b : Bool) : WrittenAs (.bool b) (typedObject "bool" (.bool b))
  | string (s : String) : WrittenAs (.string s) (typedObject "string" (.string s))
  | double (x : Finite) : WrittenAs (.double x) (typedObject "double" (.double x))
  | fitting {n : Int} : fitsInt64 n = true →
      WrittenAs (.integer n) (typedObject "double" (.integer n))
  | wide {n : Int} {x : Finite} : fitsInt64 n = false → x.IsNearest n →
      WrittenAs (.integer n) (typedObject "double" (.double x))

/-- A literal of a document is written as it should be. -/
lemma writtenAs_of_ofJson {w : Json} {x : Scalar} (h : Scalar.ofJson w = .ok x)
    (hw : ∀ n, w = .number (.integer n) → n.natAbs ≤ 2 ^ 128) :
    ∃ o, x.encode .double = .ok (.object o) ∧ w.WrittenAs o := by
  cases w with
  | bool b =>
      cases h
      exact ⟨_, rfl, .bool b⟩
  | string s =>
      cases h
      exact ⟨_, rfl, .string s⟩
  | number n =>
      cases n with
      | double y =>
          cases h
          exact ⟨_, rfl, .double y⟩
      | integer n =>
          cases h
          have hbecomes := Scalar.becomes_ofInt (hw n rfl)
          generalize Scalar.ofInt n = s at hbecomes
          cases hbecomes with
          | fitting hfits hk =>
              subst hk
              exact ⟨_, rfl, .fitting hfits⟩
          | wide hfits hnear => exact ⟨_, rfl, .wide hfits hnear⟩
  | null => cases h
  | array vs => cases h
  | object ms => cases h

/-! ### Documents -/

/-- The condition on a leaf of a document: an equality on the field that its names lead to. -/
structure PlacedValue.IsComparedBy (stream : Stream) (l : PlacedValue) (c : Condition) : Prop where
  path : c.path = eventRoot :: l.path
  op : c.op = .eq
  operand : Scalar.ofJson l.value = .ok c.operand
  stream : c.stream? = some stream

/-- The condition on a leaf of a document, written: with the leaf itself as its operand. -/
def PlacedValue.IsWrittenBy (stream : Object) (l : PlacedValue) (o : Object) : Prop :=
  ∃ arg, l.value.WrittenAs arg ∧ o = comparisonObject (eventRoot :: l.path) .eq (.object arg) ++
    [("stream", .object stream), spanMember]

/-- A document is bound to one condition for each of its leaves, unless an object in it is
empty. -/
lemma exists_bind_of_ofJson {v : Json} {s : Shape} (h : Shape.ofJson v = .ok s)
    (hv : ∀ w ∈ v.subvalues, w ≠ .object []) (t : Stream) :
    ∃ p, t.bind (.shape s) = .ok p ∧ p.IsConjunction ∧
      List.Forall₂ (PlacedValue.IsComparedBy t) v.leaves p.leaves := by
  obtain ⟨ms, rfl, hfs⟩ := Shape.ofJson_eq_ok h
  have hread : Constraint.ofJson (.object ms) = .ok s.nest := by
    rw [Constraint.ofJson, hfs]
    rfl
  obtain ⟨p, hp⟩ := Shape.exists_bind_iff.mpr (isFilled_of_ofJson hread hv)
  have hnest := hp
  rw [Shape.bind_eq_bind_nest] at hnest
  refine ⟨p, hp, isConjunction_of_ofJson hread _ _ p hnest, ?_⟩
  rw [leaves_of_bind hnest, List.forall₂_map_right_iff]
  exact (leaves_of_ofJson hread).imp fun l d hld =>
    ⟨congrArg (eventRoot :: ·) hld.path, hld.op, hld.operand, rfl⟩

/-- Conditions on the leaves of a document are written with the leaves themselves. -/
lemma exists_encode_of_leaves {v : Json} (hwords : v.HasWordIntegers) {t : Stream} {p : Pattern}
    (hp : p.IsConjunction) (hleaves : List.Forall₂ (PlacedValue.IsComparedBy t) v.leaves p.leaves)
    {written : Object} (ht : t.encode (.top .double) = .ok written) :
    ∃ o os, p.encode (.top .double) = .ok o ∧ JoinsAll os o ∧
      List.Forall₂ (PlacedValue.IsWrittenBy written) v.leaves os := by
  have hfit : ∀ l ∈ v.leaves, ∀ n, l.value = .number (.integer n) → n.natAbs ≤ 2 ^ 128 := by
    intro l hl n hn
    have hword := hwords n (hn ▸ Json.mem_subvalues_of_mem_leaves v l hl)
    omega
  have hoperands : List.Forall₂ (fun l c => l.IsComparedBy t c ∧
      ∃ arg, c.operand.encode .double = .ok (.object arg) ∧ l.value.WrittenAs arg)
      v.leaves p.leaves :=
    ((List.forall₂_and_left _ _).mpr ⟨hfit, hleaves⟩).imp
      fun l c h => ⟨h.2, writtenAs_of_ofJson h.2.operand h.1⟩
  have hconditions : ∀ c ∈ p.leaves,
      c.stream? = some t ∧ ∃ arg, c.operand.encode .double = .ok arg :=
    forall_mem_of_forall₂ (hoperands.imp fun l c ⟨hc, arg, harg, _⟩ => ⟨hc.stream, _, harg⟩)
  obtain ⟨o, os, ho, hjoins, hos⟩ := hp.exists_encode ht hconditions
  refine ⟨o, os, ho, hjoins, forall₂_trans hoperands hos ?_⟩
  -- the operand that is written with the condition is the one that belongs to the leaf
  rintro l c o ⟨hc, arg, harg, hwritten⟩ ⟨_, harg', rfl⟩
  rw [harg, Except.ok.injEq] at harg'
  exact ⟨arg, hwritten, by rw [hc.path, hc.op, harg']⟩

/-- **A JSON object becomes its leaves, as equalities.** A JSON value is read as a shape exactly
if it is an object without `null` and without arrays, at any depth. What is no object is refused
as such, and in an object the first leaf that is no literal decides the error. If no object in it
is empty, a stream is bound to one condition for each leaf, in order: an equality on the field of
the event that the names of the leaf lead to; all of them are joined by `and` alone. Where every
number is a double and the stream can be written, they are written in order with the leaves
themselves as operands, except that an integer that does not fit 64 bits with a sign is written as
the nearest double. -/
theorem documents_become_conditions (v : Json) :
    ((∃ s, Shape.ofJson v = .ok s) ↔
      (∃ ms, v = .object ms) ∧ ∀ w ∈ v.subvalues, w ≠ .null ∧ ∀ items, w ≠ .array items) ∧
    ((∀ ms, v ≠ .object ms) → Shape.ofJson v = .error (.invalidShape v)) ∧
    (∀ ms, v = .object ms → ∀ e, Shape.ofJson v = .error e ↔
      v.leaves.findSome? (fun l => l.value.offence?) = some e) ∧
    ∀ s, Shape.ofJson v = .ok s → (∀ w ∈ v.subvalues, w ≠ .object []) → ∀ t : Stream,
      ∃ p, t.bind (.shape s) = .ok p ∧ p.IsConjunction ∧
        List.Forall₂ (PlacedValue.IsComparedBy t) v.leaves p.leaves ∧
        (v.HasWordIntegers → ∀ written, t.encode (.top .double) = .ok written →
          ∃ o os, p.encode (.top .double) = .ok o ∧ JoinsAll os o ∧
            List.Forall₂ (PlacedValue.IsWrittenBy written) v.leaves os) := by
  refine ⟨?_, fun hv => ?_, ?_, fun s hs hv t => ?_⟩
  · cases v with
    | object ms =>
        rw [(Shape.ofJson_failsWithFirst ms).succeeds, Json.offences_eq_nil_iff]
        exact ⟨fun h => ⟨⟨ms, rfl⟩, h⟩, fun h => h.2⟩
    | _ => simp [Shape.ofJson]
  · cases v with
    | object ms => exact absurd rfl (hv ms)
    | _ => rfl
  · rintro ms rfl e
    rw [Shape.ofJson_failsWithFirst ms e, Json.offences, List.head?_filterMap]
  · obtain ⟨p, hp, hconj, hleaves⟩ := exists_bind_of_ofJson hs hv t
    exact ⟨p, hp, hconj, hleaves,
      fun hwords written ht => exists_encode_of_leaves hwords hconj hleaves ht⟩

/-- The state of a pump, with an integer that is between two doubles and as near to both. -/
def pumpState : Json :=
  .object [("pump", .object [("on", .bool true), ("strokes", .integer 9223372036854776832)]),
    ("mode", .string "idle"), ("load", .double (.zero true))]

theorem pumpState_becomes_conditions :
    ∃ s p o os, Shape.ofJson pumpState = .ok s ∧ (Stream.named "S").bind (.shape s) = .ok p ∧
      p.leaves.map Condition.path = [["event", "pump", "on"], ["event", "pump", "strokes"],
        ["event", "mode"], ["event", "load"]] ∧
      p.encode (.top .double) = .ok o ∧ JoinsAll os o ∧
      List.Forall₂ (PlacedValue.IsWrittenBy [("name", .string "S")]) pumpState.leaves os := by
  have hsub : pumpState.subvalues = [pumpState,
      .object [("on", .bool true), ("strokes", .integer 9223372036854776832)], .bool true,
      .integer 9223372036854776832, .string "idle", .double (.zero true)] := rfl
  have hwords : pumpState.HasWordIntegers := by
    rw [Json.HasWordIntegers, hsub]
    simp [pumpState, Json.integer, Json.double]
  obtain ⟨-, -, -, hbind⟩ := documents_become_conditions pumpState
  obtain ⟨p, hp, -, hleaves, hencode⟩ := hbind _ rfl (by rw [hsub]; simp [pumpState, Json.integer,
    Json.double]) (.named "S")
  obtain ⟨o, os, ho, hjoins, hos⟩ := hencode hwords _ rfl
  exact ⟨_, p, o, os, rfl, hp, (map_eq_of_forall₂ (hleaves.imp fun l c h => h.path.symm)).symm, ho,
    hjoins, hos⟩

end EventQuery
