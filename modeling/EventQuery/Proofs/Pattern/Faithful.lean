import EventQuery.Proofs.Pattern.Normal

/-!
What the written form of a pattern tells.

* `equal_core_timing`: a pattern is told by its core and its timing.
* `CoreObject.mark_congr`: no core is written like one of another kind.
* `written_equal_iff_normal_equal`: two patterns are written equal exactly if
  their normal forms are equal, as long as numbers are tagged as doubles.
-/

namespace EventQuery

/-! ### Equality of written timings -/

/-- The bounds of two widths are written equal if they are equal. -/
lemma equal_bounds {a b c d : Option Delta} {ms ns : Object} (hms : encodeBounds a b = .ok ms)
    (hns : encodeBounds c d = .ok ns) :
    (Json.object ms).equal (.object ns) = (Delta.equalOption a c && Delta.equalOption b d) := by
  obtain ⟨i, j, hi, hj, hmsd, hmsl⟩ := encodeBounds_eq_ok hms
  obtain ⟨k, l, hk, hl, hnsd, hnsl⟩ := encodeBounds_eq_ok hns
  rw [← Delta.equalOption_of_written hi hk, ← Delta.equalOption_of_written hj hl, Bool.eq_iff_iff,
    Json.equal_object_iff hmsd hnsd, Bool.and_eq_true]
  constructor
  · intro h
    have hmin := h "at-least"
    have hmax := h "at-most"
    simp only [hmsl, hnsl, String.reduceEq, if_true, if_false, Option.none_or, Option.or_none]
      at hmin hmax
    exact ⟨hmin, hmax⟩
  · rintro ⟨hmin, hmax⟩ key
    rw [hmsl, hnsl]
    by_cases hkey : key = "at-most"
    · simpa [hkey] using hmax
    · by_cases hkey' : key = "at-least"
      · simpa [hkey'] using hmin
      · simp [hkey, hkey']

/-- Two timings are written equal under all names if they are equal. -/
lemma Timing.equal_of_written {t u : Timing} {m n : TimingMembers} (hm : t.WrittenAs m)
    (hn : u.WrittenAs n) :
    (∀ key ∈ timingNames, Json.equalOption (m.find? key) (n.find? key) = true)
      ↔ t.equal u = true := by
  have hafter := Delta.equalOption_of_written hm.after hn.after
  have hwithin := Delta.equalOption_of_written hm.within hn.within
  have hbounds : Json.equalOption (if m.bounds = [] then none else some (.object m.bounds))
      (if n.bounds = [] then none else some (.object n.bounds))
      = (Delta.equalOption t.min u.min && Delta.equalOption t.max u.max) := by
    rw [← equal_bounds hm.bounds hn.bounds]
    by_cases hms : m.bounds = [] <;> by_cases hns : n.bounds = [] <;>
      simp [hms, hns, Json.equal, Json.equalMembers, Json.equalOption, eq_comm (a := (0 : Nat))]
  rw [Timing.equal, ← hafter, ← hwithin, ← hbounds]
  simp [timingNames, TimingMembers.find?, and_assoc]

/-- **Patterns are written equal** if their cores and their timings are. -/
lemma equal_core_timing {cx : EncodeContext} {p q : Pattern} {o o' : Object}
    (hp : p.encode cx = .ok o) (hq : q.encode cx = .ok o') :
    ∃ u v, CoreObject cx p.core u ∧ CoreObject cx q.core v ∧
      (Json.object o).equal (.object o')
        = ((Json.object u).equal (.object v) && p.timing.equal q.timing) := by
  obtain ⟨u, m, hu, hm, hod, hol⟩ := encode_core_timing p hp
  obtain ⟨v, n, hv, hn, hod', hol'⟩ := encode_core_timing q hq
  refine ⟨u, v, hu, hv, ?_⟩
  have hcore : ∀ key ∉ timingNames, m.find? key = none ∧ n.find? key = none := by
    intro key hkey
    simp only [timingNames, List.mem_cons, List.not_mem_nil, or_false, not_or] at hkey
    simp [TimingMembers.find?, hkey]
  rw [Bool.eq_iff_iff, Bool.and_eq_true, Json.equal_object_iff hod hod',
    Json.equal_object_iff hu.names.1 hv.names.1, ← Timing.equal_of_written hm hn]
  constructor
  · refine fun h => ⟨fun key => ?_, fun key hkey => ?_⟩
    · by_cases hkey : key ∈ timingNames
      · rw [hu.names.2 key hkey, hv.names.2 key hkey]
        rfl
      · simpa [hol, hol', hcore key hkey] using h key
    · simpa [hol, hol', hu.names.2 key hkey, hv.names.2 key hkey] using h key
  · rintro ⟨hcores, htimings⟩ key
    rw [hol, hol']
    by_cases hkey : key ∈ timingNames
    · simpa [hu.names.2 key hkey, hv.names.2 key hkey] using htimings key hkey
    · simpa [hcore key hkey] using hcores key

/-! ### Equality of written cores -/

lemma CoreObject.mark_eq {cx : EncodeContext} {p : Pattern} {o : Object} (h : CoreObject cx p o) :
    (Fields.find? "type" o).or (Fields.find? "expr" o) = p.mark.map .string := by
  cases h <;>
    simp [Fields.find?, comparisonObject, spanMember, booleanObject, partsObject, switchObject,
      Pattern.mark]

/-- Cores that are written equal have the same mark. -/
lemma CoreObject.mark_congr {cx : EncodeContext} {p q : Pattern} {o o' : Object}
    (hp : CoreObject cx p o) (hq : CoreObject cx q o')
    (h : (Json.object o).equal (.object o') = true) : p.mark = q.mark := by
  have hlook := (Json.equal_object_iff hp.names.1 hq.names.1).mp h
  have hmarks : Json.equalOption (p.mark.map .string) (q.mark.map .string) = true := by
    rw [← hp.mark_eq, ← hq.mark_eq]
    have htype := hlook "type"
    have hexpr := hlook "expr"
    cases ho : Fields.find? "type" o <;> cases ho' : Fields.find? "type" o' <;>
      simp_all [Json.equalOption]
  revert hmarks
  cases p.mark <;> cases q.mark <;> simp [Json.equalOption, Json.equal]

lemma Parallel.name_injective {k l : Parallel} (h : k.name = l.name) : k = l := by
  cases k <;> cases l <;> first | rfl | (exfalso; revert h; decide)

lemma Parallel.name_eq_iff (k : Parallel) (s : String) :
    k.name = s ↔ (k = any ∧ s = "any") ∨ (k = all ∧ s = "all") ∨ (k = during ∧ s = "during") := by
  cases k <;> simp [name, eq_comm]

lemma Parallel.eq_name_iff (k : Parallel) (s : String) :
    s = k.name ↔ (k = any ∧ s = "any") ∨ (k = all ∧ s = "all") ∨ (k = during ∧ s = "during") := by
  rw [eq_comm, name_eq_iff]

lemma Parallel.name_beq (k l : Parallel) : (k.name == l.name) = (k == l) := by
  rw [Bool.eq_iff_iff, beq_iff_eq, beq_iff_eq]
  exact ⟨name_injective, congrArg name⟩

lemma Operator.token_beq (a b : Operator) : (a.token == b.token) = (a == b) := by
  rw [Bool.eq_iff_iff, beq_iff_eq, beq_iff_eq]
  exact ⟨token_injective, congrArg token⟩

lemma equal_booleanObject (s t : String) (a b c d : Object) :
    (Json.object (booleanObject s a b)).equal (.object (booleanObject t c d))
      = (s == t && ((Json.object a).equal (.object c) && (Json.object b).equal (.object d))) := by
  simp [booleanObject, Json.equal, Json.equalMembers, Json.equalItems, Fields.find?]

lemma equal_partsObject (s t : String) (as bs : List Json) :
    (Json.object (partsObject s as)).equal (.object (partsObject t bs))
      = (s == t && Json.equalItems as bs) := by
  simp [partsObject, Json.equal, Json.equalMembers, Fields.find?]

lemma equal_switchObject (s t : String) (as bs : List Json) :
    (Json.object (switchObject s as)).equal (.object (switchObject t bs))
      = (s == t && Json.equalItems as bs) := by
  simp [switchObject, Json.equal, Json.equalMembers, Fields.find?]

/-- What all conditions have is written equal if they agree in it. -/
lemma equal_comparisonObject {path path' : List String} {op op' : Operator} {x y : Scalar}
    {v w : Json} (hx : x.encode .double = .ok v) (hy : y.encode .double = .ok w) :
    (Json.object (comparisonObject path op v)).equal (.object (comparisonObject path' op' w))
      = (path == path' && op == op' && x.equal y) := by
  rw [← Scalar.equal_of_encode hx hy, ← Operator.token_beq, ← Json.equal_strings]
  simp [comparisonObject, Json.equal, Json.equalMembers, Fields.find?, Bool.and_assoc]

lemma equal_hiddenObject (p q : List String) (op op' : Operator) (v w : Json) :
    (Json.object (comparisonObject p op v ++ [spanMember])).equal
        (.object (comparisonObject q op' w ++ [spanMember]))
      = (Json.object (comparisonObject p op v)).equal (.object (comparisonObject q op' w)) := by
  simp [comparisonObject, spanMember, Json.equal, Json.equalMembers, Fields.find?]

lemma equal_boundObject (p q : List String) (op op' : Operator) (v w : Json) (s t : Object) :
    (Json.object (comparisonObject p op v ++ [("stream", .object s), spanMember])).equal
        (.object (comparisonObject q op' w ++ [("stream", .object t), spanMember]))
      = ((Json.object (comparisonObject p op v)).equal (.object (comparisonObject q op' w))
          && (Json.object s).equal (.object t)) := by
  simp [comparisonObject, spanMember, Json.equal, Json.equalMembers, Fields.find?,
    Bool.and_assoc]

/-- Numbers are doubles, inside a switch or not. -/
def EncodeContext.double (inSwitch : Bool) : EncodeContext := ⟨.double, inSwitch⟩

/-- The core of a pattern is written as its normal form tells. -/
def Pattern.CoreFaithful (p : Pattern) : Prop :=
  ∀ inSwitch q u v, CoreObject (.double inSwitch) p.core u → CoreObject (.double inSwitch) q v →
    (Json.object u).equal (.object v) = (p.normalCore inSwitch).equal (q.normalCore inSwitch)

/-- A pattern is written as its normal form tells if its core is. -/
lemma Pattern.CoreFaithful.whole {p : Pattern} (h : p.CoreFaithful) {inSwitch : Bool}
    {q : Pattern} {o o' : Object} (hp : p.encode (.double inSwitch) = .ok o)
    (hq : q.encode (.double inSwitch) = .ok o') :
    (Json.object o).equal (.object o') = (p.normal inSwitch).equal (q.normal inSwitch) := by
  obtain ⟨u, v, hu, hv, heq⟩ := equal_core_timing hp hq
  rw [heq, h inSwitch _ u v hu hv, Pattern.normalCore_core, Pattern.normal, Pattern.normal,
    Timing.wrap_equal (isCore_normalCore _ _) (isCore_normalCore _ _)]

/-- Lists of patterns are written as their normal forms tell. -/
lemma equalItems_of_encodeParts {inSwitch : Bool} {ps qs : List Pattern}
    (h : ∀ p ∈ ps, p.CoreFaithful) :
    ∀ {os os'}, encodeParts (.double inSwitch) ps = .ok os →
      encodeParts (.double inSwitch) qs = .ok os' →
      Json.equalItems os os'
        = equalPatterns (normalParts inSwitch ps) (normalParts inSwitch qs) := by
  induction ps generalizing qs with
  | nil =>
      intro os os' hos hos'
      cases hos
      cases qs with
      | nil =>
          cases hos'
          simp [Json.equalItems, normalParts, equalPatterns]
      | cons q qs =>
          simp only [encodeParts, bind_eq_ok, pure_eq_ok, Except.ok.injEq] at hos'
          obtain ⟨-, -, -, -, rfl⟩ := hos'
          simp [Json.equalItems, normalParts, equalPatterns]
  | cons p ps ih =>
      intro os os' hos hos'
      simp only [encodeParts, bind_eq_ok, pure_eq_ok, Except.ok.injEq] at hos
      obtain ⟨o, ho, os, hos, rfl⟩ := hos
      obtain ⟨hp, hps⟩ := List.forall_mem_cons.mp h
      cases qs with
      | nil =>
          cases hos'
          simp [Json.equalItems, normalParts, equalPatterns]
      | cons q qs =>
          simp only [encodeParts, bind_eq_ok, pure_eq_ok, Except.ok.injEq] at hos'
          obtain ⟨o', ho', os', hos', rfl⟩ := hos'
          rw [Json.equalItems, hp.whole ho ho', ih hps hos hos', normalParts, normalParts,
            equalPatterns, Pattern.normal, Pattern.normal]

/-- Streams are written as their normal forms tell. -/
lemma equal_of_encode_stream {inSwitch : Bool} {s t : Stream} {o o' : Object}
    (h : ∀ f, s.filter? = some f → f.CoreFaithful) (hs : s.encode (.double inSwitch) = .ok o)
    (ht : t.encode (.double inSwitch) = .ok o') :
    (Json.object o).equal (.object o') = s.normal.equal t.normal := by
  obtain ⟨n, f | f⟩ := s <;> obtain ⟨m, g | g⟩ := t <;>
    simp only [Stream.encode, bind_eq_ok, pure_eq_ok, Except.ok.injEq] at hs ht
  · subst hs ht
    simp [Json.equal, Json.equalMembers, Fields.find?, Stream.normal, Stream.equal]
  · obtain ⟨u, hu, rfl⟩ := ht
    subst hs
    simp [Json.equal, Json.equalMembers, Stream.normal, Stream.equal]
  · obtain ⟨u, hu, rfl⟩ := hs
    subst ht
    simp [Json.equal, Json.equalMembers, Stream.normal, Stream.equal]
  · obtain ⟨u, hu, rfl⟩ := hs
    obtain ⟨v, hv, rfl⟩ := ht
    have hfilter : (Json.object u).equal (.object v) = (f.normal false).equal (g.normal false) :=
      (h f rfl).whole hu hv
    rw [Stream.normal, Stream.normal, Stream.equal, ← Pattern.normal, ← Pattern.normal, ← hfilter]
    simp [Json.equal, Json.equalMembers, Fields.find?]

/-- Cores with different marks are written different, as their normal forms are. -/
lemma CoreObject.equal_of_mark_ne {cx : EncodeContext} {p q : Pattern} {u v : Object}
    (hu : CoreObject cx p u) (hv : CoreObject cx q v) (h : p.mark ≠ q.mark) (inSwitch : Bool) :
    (Json.object u).equal (.object v)
      = (p.normalCore inSwitch).equal (q.normalCore inSwitch) := by
  have hwritten : (Json.object u).equal (.object v) = false :=
    Bool.eq_false_iff.mpr fun heq => h (hu.mark_congr hv heq)
  have hnormal : (p.normalCore inSwitch).equal (q.normalCore inSwitch) = false := by
    refine Bool.eq_false_iff.mpr fun heq => h ?_
    rw [← Pattern.mark_normalCore inSwitch p, ← Pattern.mark_normalCore inSwitch q]
    exact Pattern.mark_of_equal (Pattern.isCore_normalCore _ _) heq
  rw [hwritten, hnormal]

/-- The core of every pattern is written as its normal form tells. -/
lemma Pattern.coreFaithful (p : Pattern) : p.CoreFaithful := by
  induction p using Pattern.ind with
  | unbound path op x =>
      intro inSwitch q u v hu hv
      rw [core_of_isCore rfl] at hu
      by_cases hmark : (Pattern.condition (.mk path op x none)).mark = q.mark
      · cases hu with
        | unbound hx =>
            cases hv with
            | unbound hy =>
                rw [equal_comparisonObject hx hy, normalCore, normalCore, equal, Condition.normal,
                  Condition.normal, Condition.equal]
            | _ => simp [mark] at hmark
      · exact hu.equal_of_mark_ne hv hmark inSwitch
  | bound path op x s ih =>
      intro inSwitch q u v hu hv
      rw [core_of_isCore rfl] at hu
      by_cases hmark : (Pattern.condition (.mk path op x (some s))).mark = q.mark
      · cases hu with
        | hidden hin hx =>
            cases hin
            cases hv with
            | hidden _ hy =>
                rw [equal_hiddenObject, equal_comparisonObject hx hy]
                simp [normalCore, equal, Condition.normal, Condition.equal, Stream.anyBound,
                  Stream.named, Stream.equal]
            | bound hout => cases hout
            | _ => simp [mark, Parallel.eq_name_iff] at hmark
        | bound hout hx hs =>
            cases hout
            cases hv with
            | hidden hin => cases hin
            | bound _ hy ht =>
                rw [equal_boundObject, equal_comparisonObject hx hy,
                  equal_of_encode_stream ih hs ht]
                simp [normalCore, equal, Condition.normal, Condition.equal]
            | _ => simp [mark, Parallel.eq_name_iff] at hmark
      · exact hu.equal_of_mark_ne hv hmark inSwitch
  | and l r ihl ihr =>
      intro inSwitch q u v hu hv
      rw [core_of_isCore rfl] at hu
      by_cases hmark : (Pattern.and l r).mark = q.mark
      · cases hu with
        | and hl hr =>
            cases hv with
            | and hl' hr' =>
                rw [equal_booleanObject, ihl.whole hl hl', ihr.whole hr hr', normalCore, normalCore,
                  equal, ← normal, ← normal, ← normal, ← normal, beq_self_eq_true, Bool.true_and]
            | _ => simp [mark, Parallel.eq_name_iff] at hmark
      · exact hu.equal_of_mark_ne hv hmark inSwitch
  | or l r ihl ihr =>
      intro inSwitch q u v hu hv
      rw [core_of_isCore rfl] at hu
      by_cases hmark : (Pattern.or l r).mark = q.mark
      · cases hu with
        | or hl hr =>
            cases hv with
            | or hl' hr' =>
                rw [equal_booleanObject, ihl.whole hl hl', ihr.whole hr hr', normalCore, normalCore,
                  equal, ← normal, ← normal, ← normal, ← normal, beq_self_eq_true, Bool.true_and]
            | _ => simp [mark, Parallel.eq_name_iff] at hmark
      · exact hu.equal_of_mark_ne hv hmark inSwitch
  | serial ps ih =>
      intro inSwitch q u v hu hv
      rw [core_of_isCore rfl] at hu
      by_cases hmark : (Pattern.serial ps).mark = q.mark
      · cases hu with
        | serial hps =>
            cases hv with
            | serial hqs =>
                rw [equal_partsObject, equalItems_of_encodeParts ih hps hqs, normalCore, normalCore,
                  equal, beq_self_eq_true, Bool.true_and]
            | _ => simp [mark, Parallel.eq_name_iff] at hmark
      · exact hu.equal_of_mark_ne hv hmark inSwitch
  | parallel kind ps ih =>
      intro inSwitch q u v hu hv
      rw [core_of_isCore rfl] at hu
      by_cases hmark : (Pattern.parallel kind ps).mark = q.mark
      · cases hu with
        | parallel hps =>
            cases hv with
            | parallel hqs =>
                rw [equal_partsObject, equalItems_of_encodeParts ih hps hqs, normalCore, normalCore,
                  equal, Parallel.name_beq]
            | _ => simp [mark, Parallel.name_eq_iff] at hmark
      · exact hu.equal_of_mark_ne hv hmark inSwitch
  | spacing p after within ih =>
      intro inSwitch q u v hu hv
      rw [normalCore]
      exact ih inSwitch q u v hu hv
  | width p min max ih =>
      intro inSwitch q u v hu hv
      rw [normalCore]
      exact ih inSwitch q u v hu hv
  | switch s ps ih =>
      intro inSwitch q u v hu hv
      rw [core_of_isCore rfl] at hu
      by_cases hmark : (Pattern.switch s ps).mark = q.mark
      · cases hu with
        | switch hps =>
            cases hv with
            | switch hqs =>
                -- The states of both are written as inside a switch, wherever the
                -- switches themselves stand.
                rw [equal_switchObject, equalItems_of_encodeParts ih hps hqs, normalCore,
                  normalCore, equal, Stream.named, Stream.named, Stream.equal]
            | _ => simp [mark, Parallel.eq_name_iff] at hmark
      · exact hu.equal_of_mark_ne hv hmark inSwitch

/-- **The written form loses what the normal form leaves out and nothing else.**
Patterns that can be written with doubles are written equal, as JSON values,
exactly if their normal forms are equal. -/
theorem written_equal_iff_normal_equal {a b : Pattern} {o o' : Object}
    (ha : a.encode (.top .double) = .ok o) (hb : b.encode (.top .double) = .ok o') :
    (Json.object o).equal (.object o') = true
      ↔ (a.normal false).equal (b.normal false) = true := by
  rw [a.coreFaithful.whole ha hb]

/-- A switch with one bound condition inside a width without bounds and two
distances. -/
def spacedSwitch (s : Stream) (inner : Option Delta) : Pattern :=
  .spacing (.width (.spacing (.switch s [.condition (.mk ["event", "x"] .eq (.bool true) (some s))])
    inner none) none none) (some .empty) none

/-- Neither the distance inside nor the filter of the stream counts. -/
theorem spacedSwitch_written_equal :
    ∃ o o', (spacedSwitch (.named "S") none).encode (.top .double) = .ok o ∧
      (spacedSwitch (.mk "S" (some (.serial []))) (some .empty)).encode (.top .double) = .ok o' ∧
      (Json.object o).equal (.object o') = true := by
  have ha : (spacedSwitch (.named "S") none).encode (.top .double) = .ok _ := rfl
  have hb : (spacedSwitch (.mk "S" (some (.serial []))) (some .empty)).encode (.top .double)
      = .ok _ := rfl
  refine ⟨_, _, ha, hb, (written_equal_iff_normal_equal ha hb).mpr ?_⟩
  have hdelta : Delta.empty.equal .empty = true := by decide
  simp [hdelta, spacedSwitch, Pattern.normal, Pattern.timing, Timing.spaced, Timing.sized,
    Timing.wrap, Timing.untimed, Pattern.spacedBy, Pattern.sizedBy, Pattern.normalCore, normalParts,
    Condition.normal, Stream.named, Stream.name, Stream.anyBound, Pattern.equal, equalPatterns,
    Condition.equal, Stream.equal, Scalar.equal, Delta.equalOption]

end EventQuery
