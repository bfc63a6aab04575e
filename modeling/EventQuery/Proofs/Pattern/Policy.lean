import EventQuery.Proofs.Double.Value
import EventQuery.Proofs.Induction
import EventQuery.Proofs.Pattern.WellFormed

/-!
What the number policy changes in a written query.

A query is written twice, once with all numbers as doubles and once with whole ones
as integers. The two values have the same shape, the same names in the same order,
the same strings and the same deltas. They differ in the numeric literals of
conditions only, and there in the form of the number and never in its value.

* `SameOperands`: the literals of two conditions that agree like that.
* `Json.SameButOperands`: two values that are the same up to the literals of
  conditions, which agree.
* `policies_agree`: whatever is written under the one policy is written under the
  other one, and agrees with it.
-/

namespace EventQuery

/-- The type of a literal, as the form of its number tells it. -/
def Number.tag : Number → String
  | .integer _ => "int"
  | .double _ => "double"

/-- The literals of one condition under the two policies: a number keeps its value,
and goes by the type `double` under the first one and by that of its form under
the second one; anything else is the same. -/
inductive SameOperands : Json → Json → Prop where
  | number {m n : Number} : m.value = n.value → SameOperands
      (.object (typedObject "double" (.number m))) (.object (typedObject n.tag (.number n)))
  | bool (b : Bool) : SameOperands
      (.object (typedObject "bool" (.bool b))) (.object (typedObject "bool" (.bool b)))
  | string (s : String) : SameOperands
      (.object (typedObject "string" (.string s))) (.object (typedObject "string" (.string s)))

mutual

/-- Two values that are the same, the order of members included, up to the literals of
the conditions in them, which agree. -/
inductive Json.SameButOperands : Json → Json → Prop where
  | null : Json.SameButOperands .null .null
  | bool (b : Bool) : Json.SameButOperands (.bool b) (.bool b)
  | number (n : Number) : Json.SameButOperands (.number n) (.number n)
  | string (s : String) : Json.SameButOperands (.string s) (.string s)
  | array {vs ws : List Json} : SameItems vs ws → Json.SameButOperands (.array vs) (.array ws)
  | object {ms ns : Object} : SameMembers (isConditionObject ms) ms ns →
      Json.SameButOperands (.object ms) (.object ns)

/-- Items that agree one by one. -/
inductive SameItems : List Json → List Json → Prop where
  | nil : SameItems [] []
  | cons {v w : Json} {vs ws : List Json} : v.SameButOperands w → SameItems vs ws →
      SameItems (v :: vs) (w :: ws)

/-- Members that agree one by one, those of a condition or of another object. -/
inductive SameMembers : Bool → Object → Object → Prop where
  | nil {ofCondition : Bool} : SameMembers ofCondition [] []
  | operand {v w : Json} {ms ns : Object} : SameOperands v w → SameMembers true ms ns →
      SameMembers true (("arg", v) :: ms) (("arg", w) :: ns)
  | other {ofCondition : Bool} {key : String} {v w : Json} {ms ns : Object} :
      (ofCondition = true → key ≠ "arg") → v.SameButOperands w → SameMembers ofCondition ms ns →
      SameMembers ofCondition ((key, v) :: ms) ((key, w) :: ns)

end

/-- Two objects that are the same up to the literals of the conditions in them. -/
abbrev Object.SameButOperands (o u : Object) : Prop :=
  Json.SameButOperands (.object o) (.object u)

/-! ### Values without conditions -/

/-- Members that agree with themselves, of an object that is no condition. -/
lemma sameMembers_self {ms : Object} (h : ∀ m ∈ ms, m.2.SameButOperands m.2) :
    SameMembers false ms ms := by
  induction ms with
  | nil => exact .nil
  | cons m ms ih =>
      obtain ⟨hm, hms⟩ := List.forall_mem_cons.mp h
      exact .other (by simp) hm (ih hms)

/-- A value without conditions agrees with itself. -/
lemma Json.sameButOperands_self {v : Json} (h : v.conditionObjects = []) :
    v.SameButOperands v := by
  induction v using Json.ind with
  | null => exact .null
  | bool b => exact .bool b
  | number n => exact .number n
  | string s => exact .string s
  | array vs ih =>
      rw [conditionObjects_array, List.flatMap_eq_nil_iff] at h
      refine .array ?_
      induction vs with
      | nil => exact .nil
      | cons v vs ihvs =>
          obtain ⟨hv, hvs⟩ := List.forall_mem_cons.mp h
          obtain ⟨ihv, ih⟩ := List.forall_mem_cons.mp ih
          exact .cons (ihv hv) (ihvs ih hvs)
  | object ms ih =>
      rw [conditionObjects_object, List.append_eq_nil_iff, List.flatMap_eq_nil_iff] at h
      obtain ⟨hcond, hms⟩ := h
      have hfalse : isConditionObject ms = false := by simpa using hcond
      refine .object ?_
      rw [hfalse]
      exact sameMembers_self fun m hm => ih m hm (hms m hm)

lemma Json.strings_sameButOperands (ss : List String) :
    (Json.strings ss).SameButOperands (.strings ss) :=
  Json.sameButOperands_self (Json.conditionObjects_strings ss)

/-! ### Setting members -/

/-- Setting a member that is no literal keeps members in agreement. -/
lemma SameMembers.insert {key : String} (hkey : key ≠ "arg") {v w : Json}
    (hvw : v.SameButOperands w) {b : Bool} {ms ns : Object} (h : SameMembers b ms ns) :
    SameMembers b (Fields.insert key v ms) (Fields.insert key w ns) := by
  induction ms generalizing ns with
  | nil =>
      cases h
      exact .other (fun _ => hkey) hvw .nil
  | cons m ms ih =>
      cases h with
      | operand harg hms =>
          rw [Fields.insert, if_neg hkey.symm, Fields.insert, if_neg hkey.symm]
          exact .operand harg (ih hms)
      | @other _ k _ _ _ _ hk hkvw hms =>
          by_cases heq : k = key
          · rw [Fields.insert, if_pos heq, Fields.insert, if_pos heq]
            exact .other hk hvw hms
          · rw [Fields.insert, if_neg heq, Fields.insert, if_neg heq]
            exact .other hk hkvw (ih hms)

/-- Setting a member that no condition tells keeps objects in agreement. -/
lemma Object.SameButOperands.insert {o u : Object} (h : o.SameButOperands u) {key : String}
    (hpath : key ≠ "path") (harg : key ≠ "arg") {v w : Json} (hvw : v.SameButOperands w) :
    Object.SameButOperands (Fields.insert key v o) (Fields.insert key w u) := by
  cases h with
  | object hms =>
      have hcond : isConditionObject (Fields.insert key v o) = isConditionObject o := by
        rw [isConditionObject, Fields.find?_insert_of_ne hpath.symm, isConditionObject]
      refine .object ?_
      rw [hcond]
      exact hms.insert harg hvw

/-- An optional delta is written the same way under both policies. -/
lemma setDelta_alike {key : String} (hpath : key ≠ "path") (harg : key ≠ "arg")
    (d : Option Delta) {o u : Object} (h : o.SameButOperands u) :
    Alike Object.SameButOperands (setDelta key d o) (setDelta key d u) := by
  cases d with
  | none => exact .ok h
  | some d =>
      have hself : Alike Json.SameButOperands d.encode d.encode := by
        refine Alike.of_self fun v hv => ?_
        obtain ⟨e, rfl, he⟩ := isDeltaObject_of_encode hv
        exact Json.sameButOperands_self he.conditionObjects
      exact hself.map fun v w hvw => h.insert hpath harg hvw

/-- So is a width. -/
lemma setWidth_alike (min max : Option Delta) {o u : Object} (h : o.SameButOperands u) :
    Alike Object.SameButOperands (do return setWidth (← encodeBounds min max) o)
      (do return setWidth (← encodeBounds min max) u) := by
  have hself : Alike (fun b b' => b = b' ∧ encodeBounds min max = .ok b)
      (encodeBounds min max) (encodeBounds min max) := Alike.of_self fun b hb => ⟨rfl, hb⟩
  refine hself.map fun b b' hb => ?_
  obtain ⟨rfl, hb⟩ := hb
  rw [setWidth, setWidth]
  split
  · exact h
  · rename_i hne
    have hbounds := (isBoundsObject_of_encodeBounds hb hne).conditionObjects
    exact h.insert (by decide) (by decide) (Json.sameButOperands_self hbounds)

/-! ### Literals, conditions and streams -/

/-- A literal keeps its value under both policies. -/
lemma Scalar.encode_alike (x : Scalar) :
    Alike SameOperands (x.encode .double) (x.encode .integralAsInt) := by
  rcases x with n | (x | x) | b | s
  · exact .ok (.number (n := .integer n.toInt) rfl)
  · cases hx : x.toInt64? with
    | none =>
        simp only [Scalar.encode, Scalar.value, Scalar.tag, Double.toInt64?, hx]
        exact .ok (.number (n := .double x) rfl)
    | some n =>
        simp only [Scalar.encode, Scalar.value, Scalar.tag, Double.toInt64?, hx]
        exact .ok (.number (n := .integer n.toInt) (Finite.value_eq_toInt64? hx))
  · exact .error _
  · exact .ok (.bool b)
  · exact .ok (.string s)

/-- The members of a condition agree if its literal and what follows it do. -/
lemma sameButOperands_comparisonObject (path : List String) (op : Operator) {arg arg' : Json}
    (harg : SameOperands arg arg') {rest rest' : Object} (hrest : SameMembers true rest rest') :
    Object.SameButOperands (comparisonObject path op arg ++ rest)
      (comparisonObject path op arg' ++ rest') :=
  .object (.other (by simp) (Json.strings_sameButOperands path)
    (.other (by simp) (.string op.token) (.operand harg hrest)))

lemma sameButOperands_booleanObject (op : String) {l l' r r' : Object}
    (hl : l.SameButOperands l') (hr : r.SameButOperands r') :
    Object.SameButOperands (booleanObject op l r) (booleanObject op l' r') :=
  .object (.other (by simp) (.string op)
    (.other (by simp) (.array (.cons hl (.cons hr .nil))) .nil))

lemma sameButOperands_partsObject (type : String) {vs ws : List Json} (h : SameItems vs ws) :
    Object.SameButOperands (partsObject type vs) (partsObject type ws) :=
  .object (.other (by simp) (.string type) (.other (by simp) (.array h) .nil))

lemma sameMembers_spanMember : SameMembers true [spanMember] [spanMember] :=
  .other (by simp) (.string "span") .nil

/-- A stream agrees if its filter does. -/
lemma Stream.encode_alike {s : Stream} (h : ∀ f, s.filter? = some f → ∀ inSwitch,
      Alike Object.SameButOperands (f.encode ⟨.double, inSwitch⟩)
        (f.encode ⟨.integralAsInt, inSwitch⟩)) (inSwitch : Bool) :
    Alike Object.SameButOperands (s.encode ⟨.double, inSwitch⟩)
      (s.encode ⟨.integralAsInt, inSwitch⟩) := by
  obtain ⟨name, f | f⟩ := s
  · rw [Stream.encode, Stream.encode]
    exact .ok (Json.sameButOperands_self rfl)
  · rw [Stream.encode, Stream.encode]
    exact (h f rfl false).map fun o u hou =>
      .object (.other (by simp) (.string name) (.other (by simp) hou .nil))

/-! ### Patterns -/

/-- Parts agree one by one. -/
lemma encodeParts_alike {inSwitch : Bool} {ps : List Pattern} (h : ∀ p ∈ ps,
      Alike Object.SameButOperands (Pattern.encode ⟨.double, inSwitch⟩ p)
        (Pattern.encode ⟨.integralAsInt, inSwitch⟩ p)) :
    Alike SameItems (encodeParts ⟨.double, inSwitch⟩ ps)
      (encodeParts ⟨.integralAsInt, inSwitch⟩ ps) := by
  induction ps with
  | nil => exact .ok .nil
  | cons p ps ih =>
      obtain ⟨hp, hps⟩ := List.forall_mem_cons.mp h
      rw [encodeParts, encodeParts]
      exact hp.bind fun o u hou => (ih hps).map fun _ _ hos => .cons hou hos

/-- The policy of a pattern changes its literals only. -/
lemma Pattern.encode_alike (p : Pattern) : ∀ inSwitch,
    Alike Object.SameButOperands (Pattern.encode ⟨.double, inSwitch⟩ p)
      (Pattern.encode ⟨.integralAsInt, inSwitch⟩ p) := by
  induction p using Pattern.ind with
  | unbound path op x =>
      intro b
      rw [Pattern.encode, Pattern.encode, Condition.encode, Condition.encode]
      exact x.encode_alike.map fun arg arg' harg => by
        simpa using sameButOperands_comparisonObject path op harg .nil
  | bound path op x s ih =>
      intro b
      rw [Pattern.encode, Pattern.encode, Condition.encode, Condition.encode]
      refine x.encode_alike.bind fun arg arg' harg => ?_
      cases b with
      | true => exact .ok (sameButOperands_comparisonObject path op harg sameMembers_spanMember)
      | false =>
          exact (Stream.encode_alike ih false).map fun u u' hu =>
            sameButOperands_comparisonObject path op harg
              (.other (by simp) hu sameMembers_spanMember)
  | and l r ihl ihr =>
      intro b
      rw [Pattern.encode, Pattern.encode]
      exact (ihl b).bind fun o o' ho => (ihr b).map fun u u' hu =>
        sameButOperands_booleanObject "&&" ho hu
  | or l r ihl ihr =>
      intro b
      rw [Pattern.encode, Pattern.encode]
      exact (ihl b).bind fun o o' ho => (ihr b).map fun u u' hu =>
        sameButOperands_booleanObject "||" ho hu
  | serial ps ih =>
      intro b
      rw [Pattern.encode, Pattern.encode]
      exact (encodeParts_alike fun p hp => ih p hp b).map fun _ _ =>
        sameButOperands_partsObject "serial"
  | parallel kind ps ih =>
      intro b
      rw [Pattern.encode, Pattern.encode]
      exact (encodeParts_alike fun p hp => ih p hp b).map fun _ _ =>
        sameButOperands_partsObject kind.name
  | spacing p after within ih =>
      intro b
      rw [Pattern.encode, Pattern.encode]
      refine (ih b).bind fun o u hou => ?_
      exact (setDelta_alike (by decide) (by decide) after hou).bind fun o u hou =>
        setDelta_alike (by decide) (by decide) within hou
  | width p min max ih =>
      intro b
      rw [Pattern.encode, Pattern.encode]
      exact (ih b).bind fun o u hou => setWidth_alike min max hou
  | switch s ps ih =>
      intro b
      rw [Pattern.encode, Pattern.encode]
      -- the states are inside a switch under both policies
      refine (encodeParts_alike fun p hp => ih p hp true).map fun vs ws h => ?_
      exact .object (.other (by simp) (.string "switch")
        (.other (by simp) (Json.sameButOperands_self rfl) (.other (by simp) (.array h) .nil)))

/-- **The number policy changes numeric literals only.** Under the two policies, a
pattern, in a switch or not, a stream and a query fail with one error or are
both written, and then the two values are the same up to the literals of conditions.
There a number has one value under both; it has the type `double` under the first
policy and under the second one `int` exactly if it is written as an integer. -/
theorem policies_agree :
    (∀ (p : Pattern) inSwitch, Alike Object.SameButOperands
      (p.encode ⟨.double, inSwitch⟩) (p.encode ⟨.integralAsInt, inSwitch⟩)) ∧
    (∀ (s : Stream) inSwitch, Alike Object.SameButOperands
      (s.encode ⟨.double, inSwitch⟩) (s.encode ⟨.integralAsInt, inSwitch⟩)) ∧
    ∀ q : Query, Alike Json.SameButOperands (q.encode ⟨.double⟩) (q.encode ⟨.integralAsInt⟩) := by
  have hstream := fun (s : Stream) => Stream.encode_alike (s := s) fun f _ => f.encode_alike
  refine ⟨Pattern.encode_alike, hstream, fun q => ?_⟩
  cases q with
  | selection s =>
      have hw := isWindowObject_members s.window
      have hwindow := sameMembers_self fun m hm =>
        Json.sameButOperands_self (hw.conditionObjects m hm)
      refine Alike.map (R := Object.SameButOperands) ?_ fun o u hou => hou
      refine (s.root.encode_alike false).map fun o u hou => .object ?_
      rw [hw.not_isConditionObject]
      exact .other (by simp) hou hwindow
  | pattern p => exact (p.encode_alike false).map fun o u hou => hou
  | condition c => exact (Pattern.encode_alike (.condition c) false).map fun o u hou => hou
  | stream s => exact (hstream s false).map fun o u hou => hou
  | switch s => exact .error _

end EventQuery
