import EventQuery.Binding
import EventQuery.Proofs.Pattern.Normal

/-!
Switches name their stream once: what that does to the states.

* `Json.withoutStreams` deletes the stream of every condition in a written
  pattern, at every depth.
* `encode_state`: a state of a switch is written as it is elsewhere, without the
  streams.
* `Pattern.eraseStreams` forgets the streams in a pattern; `encode_eraseStreams`:
  a state is written the same without them.
-/

namespace EventQuery

/-! ### Deleting streams from written patterns -/

/-- Whether an object is that of a condition: no other has a path. -/
def isConditionObject (o : Object) : Bool := (Fields.find? "path" o).isSome

mutual

/-- The value with the member `stream` deleted from every condition in it. -/
def Json.withoutStreams : Json → Json
  | .array vs => .array (itemsWithoutStreams vs)
  | .object ms => .object (membersWithoutStreams (isConditionObject ms) ms)
  | v => v

/-- The items with the streams of all conditions deleted. -/
def itemsWithoutStreams : List Json → List Json
  | [] => []
  | v :: vs => v.withoutStreams :: itemsWithoutStreams vs

/-- The members with the streams of all conditions deleted; those of a condition
without its own stream. -/
def membersWithoutStreams (ofCondition : Bool) : List (String × Json) → List (String × Json)
  | [] => []
  | (key, v) :: rest =>
    if ofCondition && key == "stream" then membersWithoutStreams ofCondition rest
    else (key, v.withoutStreams) :: membersWithoutStreams ofCondition rest

end

/-- The object with the streams of all conditions deleted. -/
def Object.withoutStreams (o : Object) : Object := membersWithoutStreams (isConditionObject o) o

lemma itemsWithoutStreams_eq_map (vs : List Json) :
    itemsWithoutStreams vs = vs.map Json.withoutStreams := by
  induction vs with
  | nil => rfl
  | cons v vs ih => rw [itemsWithoutStreams, ih, List.map_cons]

lemma withoutStreams_object (o : Object) :
    (Json.object o).withoutStreams = .object o.withoutStreams := by
  rw [Json.withoutStreams, Object.withoutStreams]

/-- Setting a member other than those that tell and name a stream goes along with
the deletion. -/
lemma withoutStreams_insert {key : String} (hpath : key ≠ "path") (hstream : key ≠ "stream")
    (v : Json) (o : Object) : Object.withoutStreams (Fields.insert key v o)
      = Fields.insert key v.withoutStreams o.withoutStreams := by
  have hmembers : ∀ b ms, membersWithoutStreams b (Fields.insert key v ms)
      = Fields.insert key v.withoutStreams (membersWithoutStreams b ms) := by
    intro b ms
    induction ms with
    | nil => simp [Fields.insert, membersWithoutStreams, hstream]
    | cons m ms ih =>
        obtain ⟨k, w⟩ := m
        by_cases hk : k = key
        · subst hk
          simp [Fields.insert, membersWithoutStreams, hstream]
        · by_cases hdrop : (b && k == "stream") = true
          · simp only [Fields.insert, hk, if_false, membersWithoutStreams, hdrop, if_true, ih]
          · simp only [Fields.insert, hk, if_false, membersWithoutStreams, hdrop,
              Bool.false_eq_true, ih]
  rw [Object.withoutStreams, Object.withoutStreams, isConditionObject, isConditionObject,
    Fields.find?_insert_of_ne (Ne.symm hpath), hmembers]

lemma withoutStreams_booleanObject (op : String) (l r : Object) :
    (booleanObject op l r).withoutStreams
      = booleanObject op l.withoutStreams r.withoutStreams := by
  simp [Object.withoutStreams, isConditionObject, booleanObject, Fields.find?,
    membersWithoutStreams, Json.withoutStreams, itemsWithoutStreams]

lemma withoutStreams_partsObject (type : String) (vs : List Json) :
    (partsObject type vs).withoutStreams = partsObject type (vs.map Json.withoutStreams) := by
  simp [Object.withoutStreams, isConditionObject, partsObject, Fields.find?,
    membersWithoutStreams, Json.withoutStreams, itemsWithoutStreams_eq_map]

lemma withoutStreams_switchObject (stream : String) (vs : List Json) :
    (switchObject stream vs).withoutStreams
      = switchObject stream (vs.map Json.withoutStreams) := by
  simp [Object.withoutStreams, isConditionObject, switchObject, Fields.find?,
    membersWithoutStreams, Json.withoutStreams, itemsWithoutStreams_eq_map]

lemma withoutStreams_strings (ss : List String) :
    (Json.strings ss).withoutStreams = .strings ss := by
  rw [Json.strings, Json.withoutStreams, itemsWithoutStreams_eq_map, List.map_map]
  rfl

/-! ### Literals have no streams -/

lemma withoutStreams_scalar {x : Scalar} {policy : NumberPolicy} {v : Json}
    (h : x.encode policy = .ok v) : v.withoutStreams = v := by
  simp only [Scalar.encode, bind_eq_ok, pure_eq_ok, Except.ok.injEq] at h
  obtain ⟨w, hw, rfl⟩ := h
  have hplain : w.withoutStreams = w := by
    unfold Scalar.value at hw
    split at hw
    · cases hw
      rfl
    · cases hw
    · split at hw <;>
      · cases hw
        rfl
    · cases hw
      rfl
    · cases hw
      rfl
  rw [withoutStreams_object]
  simp [Object.withoutStreams, isConditionObject, Fields.find?, membersWithoutStreams, hplain,
    Json.withoutStreams]

lemma withoutStreams_delta {d : Delta} {v : Json} (h : d.encode = .ok v) :
    v.withoutStreams = v := by
  have hunits : ∀ us ms, d.encodeUnits us = .ok ms →
      isConditionObject ms = false ∧ membersWithoutStreams false ms = ms := by
    intro us
    induction us with
    | nil =>
        intro ms hms
        cases hms
        exact ⟨rfl, rfl⟩
    | cons u us ih =>
        intro ms hms
        rw [Delta.encodeUnits] at hms
        split at hms
        · exact ih ms hms
        · simp only [bind_eq_ok, pure_eq_ok, Except.ok.injEq] at hms
          obtain ⟨w, hw, ns, hns, rfl⟩ := hms
          obtain ⟨x, -, rfl⟩ := Delta.encodeAmount_eq_ok hw
          obtain ⟨hcond, hmembers⟩ := ih ns hns
          have hname : u.name ≠ "path" := by cases u <;> decide
          refine ⟨by rwa [isConditionObject, Fields.find?, if_neg hname, ← isConditionObject], ?_⟩
          simp [membersWithoutStreams, hmembers, Json.withoutStreams]
  simp only [Delta.encode, bind_eq_ok, pure_eq_ok, Except.ok.injEq] at h
  obtain ⟨ms, hms, rfl⟩ := h
  obtain ⟨hcond, hmembers⟩ := hunits _ ms hms
  rw [withoutStreams_object, Object.withoutStreams, hcond, hmembers]

/-! ### States of a switch -/

lemma setDelta_withoutStreams {key : String} (hpath : key ≠ "path") (hstream : key ≠ "stream")
    {d : Option Delta} {o u : Object} (h : setDelta key d o = .ok u) :
    setDelta key d o.withoutStreams = .ok u.withoutStreams := by
  cases d with
  | none =>
      cases h
      rfl
  | some d =>
      simp only [setDelta, bind_eq_ok, pure_eq_ok, Except.ok.injEq] at h
      obtain ⟨v, hv, rfl⟩ := h
      rw [setDelta, hv, ok_bind, withoutStreams_insert hpath hstream, withoutStreams_delta hv]
      rfl

lemma withoutStreams_bounds {min max : Option Delta} {bounds : Object}
    (h : encodeBounds min max = .ok bounds) : bounds.withoutStreams = bounds := by
  have hagain : encodeBounds min max = .ok bounds.withoutStreams := by
    simp only [encodeBounds, bind_eq_ok] at h ⊢
    obtain ⟨o, ho, h⟩ := h
    exact ⟨o.withoutStreams, setDelta_withoutStreams (by decide) (by decide) ho,
      setDelta_withoutStreams (by decide) (by decide) h⟩
  exact Except.ok.inj (hagain.symm.trans h)

lemma setWidth_withoutStreams {min max : Option Delta} {bounds : Object}
    (h : encodeBounds min max = .ok bounds) (o : Object) :
    (setWidth bounds o).withoutStreams = setWidth bounds o.withoutStreams := by
  rw [setWidth, setWidth]
  split
  · rfl
  · rw [withoutStreams_insert (by decide) (by decide), withoutStreams_object,
      withoutStreams_bounds h]

lemma withoutStreams_comparisonObject {x : Scalar} {policy : NumberPolicy} {arg : Json}
    (h : x.encode policy = .ok arg) (path : List String) (op : Operator) (rest : Object) :
    (comparisonObject path op arg ++ rest).withoutStreams
      = comparisonObject path op arg ++ membersWithoutStreams true rest := by
  simp [Object.withoutStreams, isConditionObject, comparisonObject, Fields.find?,
    membersWithoutStreams, Json.withoutStreams, withoutStreams_strings, withoutStreams_scalar h]

lemma encodeParts_state {cx : EncodeContext} {ps : List Pattern}
    (ih : ∀ p ∈ ps, ∀ {o}, p.encode cx = .ok o →
      p.encode cx.enterSwitch = .ok o.withoutStreams) :
    ∀ {os}, encodeParts cx ps = .ok os →
      encodeParts cx.enterSwitch ps = .ok (os.map Json.withoutStreams) := by
  induction ps with
  | nil =>
      intro os h
      cases h
      rfl
  | cons p ps ihps =>
      intro os h
      obtain ⟨hp, hps⟩ := List.forall_mem_cons.mp ih
      simp only [encodeParts, bind_eq_ok, pure_eq_ok, Except.ok.injEq] at h
      obtain ⟨o, ho, os, hos, rfl⟩ := h
      rw [encodeParts, hp ho, ihps hps hos, List.map_cons, withoutStreams_object]
      rfl

/-- **A state of a switch is written as elsewhere, without the streams.** Inside
a switch already there are none to delete. -/
lemma encode_state (p : Pattern) : ∀ {cx o}, p.encode cx = .ok o →
    p.encode cx.enterSwitch = .ok o.withoutStreams := by
  induction p using Pattern.ind with
  | unbound path op x =>
      intro cx o h
      simp only [Pattern.encode, Condition.encode, bind_eq_ok, pure_eq_ok, Except.ok.injEq] at h
      obtain ⟨arg, harg, rfl⟩ := h
      have hdel := withoutStreams_comparisonObject harg path op []
      rw [List.append_nil] at hdel
      rw [hdel, Pattern.encode, Condition.encode, EncodeContext.enterSwitch, harg]
      rfl
  | bound path op x s ih =>
      intro cx o h
      simp only [Pattern.encode, Condition.encode, bind_eq_ok] at h
      obtain ⟨arg, harg, h⟩ := h
      rw [Pattern.encode, Condition.encode, EncodeContext.enterSwitch, harg, ok_bind, if_pos rfl]
      cases hcx : cx.inSwitch with
      | true =>
          simp only [hcx, if_true, pure_eq_ok, Except.ok.injEq] at h
          rw [← h, withoutStreams_comparisonObject harg]
          rfl
      | false =>
          simp only [hcx, Bool.false_eq_true, if_false, bind_eq_ok, pure_eq_ok,
            Except.ok.injEq] at h
          obtain ⟨u, -, rfl⟩ := h
          rw [withoutStreams_comparisonObject harg]
          rfl
  | and l r ihl ihr =>
      intro cx o h
      simp only [Pattern.encode, bind_eq_ok, pure_eq_ok, Except.ok.injEq] at h
      obtain ⟨u, hu, v, hv, rfl⟩ := h
      rw [Pattern.encode, ihl hu, ihr hv, withoutStreams_booleanObject]
      rfl
  | or l r ihl ihr =>
      intro cx o h
      simp only [Pattern.encode, bind_eq_ok, pure_eq_ok, Except.ok.injEq] at h
      obtain ⟨u, hu, v, hv, rfl⟩ := h
      rw [Pattern.encode, ihl hu, ihr hv, withoutStreams_booleanObject]
      rfl
  | serial ps ih =>
      intro cx o h
      simp only [Pattern.encode, bind_eq_ok, pure_eq_ok, Except.ok.injEq] at h
      obtain ⟨os, hos, rfl⟩ := h
      rw [Pattern.encode, encodeParts_state (fun p hp => ih p hp) hos, withoutStreams_partsObject]
      rfl
  | parallel kind ps ih =>
      intro cx o h
      simp only [Pattern.encode, bind_eq_ok, pure_eq_ok, Except.ok.injEq] at h
      obtain ⟨os, hos, rfl⟩ := h
      rw [Pattern.encode, encodeParts_state (fun p hp => ih p hp) hos, withoutStreams_partsObject]
      rfl
  | spacing p after within ih =>
      intro cx o h
      simp only [Pattern.encode, bind_eq_ok] at h
      obtain ⟨v, hv, w, hw, ho⟩ := h
      rw [Pattern.encode, ih hv, ok_bind, setDelta_withoutStreams (by decide) (by decide) hw,
        ok_bind, setDelta_withoutStreams (by decide) (by decide) ho]
  | width p min max ih =>
      intro cx o h
      simp only [Pattern.encode, bind_eq_ok, pure_eq_ok, Except.ok.injEq] at h
      obtain ⟨v, hv, bounds, hbounds, rfl⟩ := h
      rw [Pattern.encode, ih hv, ok_bind, hbounds, setWidth_withoutStreams hbounds]
      rfl
  | switch s ps ih =>
      intro cx o h
      simp only [Pattern.encode, bind_eq_ok, pure_eq_ok, Except.ok.injEq] at h
      obtain ⟨os, hos, rfl⟩ := h
      -- The states are inside a switch both times.
      rw [Pattern.encode, encodeParts_state (fun p hp => ih p hp) hos, withoutStreams_switchObject]
      rfl

lemma encodeParts_eq_ok {cx : EncodeContext} {ps : List Pattern} {vs : List Json} :
    encodeParts cx ps = .ok vs ↔
      List.Forall₂ (fun p v => ∃ o, p.encode cx = .ok o ∧ .object o = v) ps vs := by
  induction ps generalizing vs with
  | nil => rw [encodeParts, Except.ok.injEq, List.forall₂_nil_left_iff, eq_comm]
  | cons p ps ih =>
      simp only [encodeParts, bind_eq_ok, pure_eq_ok, Except.ok.injEq,
        List.forall₂_cons_left_iff, ih]
      constructor
      · rintro ⟨o, ho, ws, hws, rfl⟩
        exact ⟨_, ws, ⟨o, ho, rfl⟩, hws, rfl⟩
      · rintro ⟨_, ws, ⟨o, ho, rfl⟩, hws, rfl⟩
        exact ⟨o, ho, ws, hws, rfl⟩

/-- A switch is written with what its states are written as elsewhere. -/
lemma encode_switch_of_states {cx : EncodeContext} {ps : List Pattern} {os : List Object}
    (h : List.Forall₂ (fun p o => p.encode (.top cx.numbers) = .ok o) ps os) (s : Stream) :
    (Pattern.switch s ps).encode cx
      = .ok (switchObject s.name (os.map fun o => .object o.withoutStreams)) := by
  have hparts : encodeParts cx.enterSwitch ps
      = .ok (os.map fun o => .object o.withoutStreams) := by
    rw [encodeParts_eq_ok, List.forall₂_map_right_iff]
    refine h.imp fun p o ho => ?_
    have hstate := encode_state p ho
    exact ⟨_, hstate, rfl⟩
  rw [Pattern.encode, hparts]
  rfl

/-! ### What does not count inside a switch -/

mutual

/-- The pattern with all streams forgotten: of a condition only that it is bound,
of a switch all but the name. -/
def Pattern.eraseStreams : Pattern → Pattern
  | .condition c => .condition (c.normal true)
  | .and l r => .and l.eraseStreams r.eraseStreams
  | .or l r => .or l.eraseStreams r.eraseStreams
  | .serial ps => .serial (eraseAllStreams ps)
  | .parallel kind ps => .parallel kind (eraseAllStreams ps)
  | .spacing p after within => .spacing p.eraseStreams after within
  | .width p min max => .width p.eraseStreams min max
  | .switch s ps => .switch (.named s.name) (eraseAllStreams ps)

/-- The patterns with all streams forgotten. -/
def eraseAllStreams : List Pattern → List Pattern
  | [] => []
  | p :: ps => p.eraseStreams :: eraseAllStreams ps

end

lemma encodeParts_eraseAllStreams {cx : EncodeContext} {ps : List Pattern}
    (ih : ∀ p ∈ ps, p.eraseStreams.encode cx = p.encode cx) :
    encodeParts cx (eraseAllStreams ps) = encodeParts cx ps := by
  induction ps with
  | nil => rfl
  | cons p ps ihps =>
      obtain ⟨hp, hps⟩ := List.forall_mem_cons.mp ih
      rw [eraseAllStreams, encodeParts, encodeParts, hp, ihps hps]

/-- A state is written the same, or fails the same, without its streams. -/
lemma encode_eraseStreams (p : Pattern) : ∀ {cx : EncodeContext}, cx.inSwitch = true →
    p.eraseStreams.encode cx = p.encode cx := by
  induction p using Pattern.ind with
  | unbound path op x => exact fun _ => rfl
  | bound path op x s ih =>
      intro cx hcx
      simp only [Pattern.eraseStreams, Condition.normal, Pattern.encode, Condition.encode, hcx,
        if_true]
  | and l r ihl ihr =>
      intro cx hcx
      rw [Pattern.eraseStreams, Pattern.encode, Pattern.encode, ihl hcx, ihr hcx]
  | or l r ihl ihr =>
      intro cx hcx
      rw [Pattern.eraseStreams, Pattern.encode, Pattern.encode, ihl hcx, ihr hcx]
  | serial ps ih =>
      intro cx hcx
      rw [Pattern.eraseStreams, Pattern.encode, Pattern.encode,
        encodeParts_eraseAllStreams fun p hp => ih p hp hcx]
  | parallel kind ps ih =>
      intro cx hcx
      rw [Pattern.eraseStreams, Pattern.encode, Pattern.encode,
        encodeParts_eraseAllStreams fun p hp => ih p hp hcx]
  | spacing p after within ih =>
      intro cx hcx
      rw [Pattern.eraseStreams, Pattern.encode, Pattern.encode, ih hcx]
  | width p min max ih =>
      intro cx hcx
      rw [Pattern.eraseStreams, Pattern.encode, Pattern.encode, ih hcx]
  | switch s ps ih =>
      intro cx hcx
      rw [Pattern.eraseStreams, Pattern.encode, Pattern.encode,
        encodeParts_eraseAllStreams fun p hp => ih p hp rfl]
      rfl

/-- Switches that differ only in streams are written the same, or fail the
same. -/
lemma encode_switch_congr {s t : Stream} {ps qs : List Pattern} (hname : s.name = t.name)
    (hstates : eraseAllStreams ps = eraseAllStreams qs) (cx : EncodeContext) :
    (Pattern.switch s ps).encode cx = (Pattern.switch t qs).encode cx := by
  have herase : ∀ rs, encodeParts cx.enterSwitch (eraseAllStreams rs)
      = encodeParts cx.enterSwitch rs :=
    fun rs => encodeParts_eraseAllStreams fun r _ => encode_eraseStreams r rfl
  rw [Pattern.encode, Pattern.encode, ← herase ps, ← herase qs, hstates, hname]

/-! ### Binding a switch -/

/-- What a stream is bound to for a state, as it is written. -/
def Stream.Writes (s : Stream) (policy : NumberPolicy) (state : Shape) (o : Object) : Prop :=
  ∃ p, s.bind (.shape state) = .ok p ∧ p.encode (.top policy) = .ok o

/-- If all states are written for a stream, so is the switch. -/
lemma bind_switch_of_writes {s : Stream} {policy : NumberPolicy} {states : List Shape}
    {os : List Object} (h : List.Forall₂ (s.Writes policy) states os) :
    ∃ p, s.bind (.switch ⟨states⟩) = .ok p ∧ p.encode (.top policy)
      = .ok (switchObject s.name (os.map fun o => .object o.withoutStreams)) := by
  obtain ⟨ps, hbind, hencode⟩ : ∃ ps,
      List.Forall₂ (fun state p => s.bind (.shape state) = .ok p) states ps ∧
        List.Forall₂ (fun p o => p.encode (.top policy) = .ok o) ps os := by
    induction h with
    | nil => exact ⟨[], .nil, .nil⟩
    | cons hstate _ ih =>
        obtain ⟨p, hp, ho⟩ := hstate
        obtain ⟨ps, hps, hos⟩ := ih
        exact ⟨p :: ps, .cons hp hps, .cons ho hos⟩
  refine ⟨.switch s ps, ?_, encode_switch_of_states hencode s⟩
  have hstates : states.mapM (Shape.bind (some s)) = .ok ps := mapM_eq_ok.mpr hbind
  rw [Stream.bind, hstates]
  rfl

/-- A switch that is written has for each state what is written for that state
alone, if anything is. -/
lemma writes_of_bind_switch {s : Stream} {policy : NumberPolicy} {states : List Shape}
    {p : Pattern} {u : Object} (hp : s.bind (.switch ⟨states⟩) = .ok p)
    (hu : p.encode (.top policy) = .ok u) :
    ∃ conds, u = switchObject s.name conds ∧ List.Forall₂ (fun state cond =>
      ∀ o, s.Writes policy state o → cond = .object o.withoutStreams) states conds := by
  simp only [Stream.bind, bind_eq_ok, pure_eq_ok, Except.ok.injEq, mapM_eq_ok] at hp
  obtain ⟨ps, hps, rfl⟩ := hp
  simp only [Pattern.encode, bind_eq_ok, pure_eq_ok, Except.ok.injEq, encodeParts_eq_ok] at hu
  obtain ⟨conds, hconds, rfl⟩ := hu
  refine ⟨conds, rfl, ?_⟩
  induction hps generalizing conds with
  | nil =>
      cases hconds
      exact .nil
  | cons hstate _ ih =>
      cases hconds with
      | cons hcond hconds =>
          refine .cons ?_ (ih _ hconds)
          rintro o ⟨q, hq, ho⟩
          obtain ⟨v, hv, rfl⟩ := hcond
          obtain rfl : _ = q := Except.ok.inj (hstate.symm.trans hq)
          have hv' := encode_state _ ho
          rw [Except.ok.inj (hv.symm.trans hv')]

/-- **A switch hoists the stream out of its states.** A state is written as it is
outside a switch, with the streams of its conditions deleted, in any switch and in
one that a stream is bound to. What is deleted does not count: switches that differ
in it only are written the same, or fail the same. -/
theorem switch_hoists_stream (policy : NumberPolicy) :
    (∀ p o, Pattern.encode (.top policy) p = .ok o →
      p.encode (EncodeContext.top policy).enterSwitch = .ok o.withoutStreams) ∧
    (∀ s ps os inSwitch, List.Forall₂ (fun p o => Pattern.encode (.top policy) p = .ok o) ps os →
      (Pattern.switch s ps).encode ⟨policy, inSwitch⟩
        = .ok (switchObject s.name (os.map fun o => .object o.withoutStreams))) ∧
    (∀ s t ps qs inSwitch, Stream.name s = t.name → eraseAllStreams ps = eraseAllStreams qs →
      (Pattern.switch s ps).encode ⟨policy, inSwitch⟩
        = (Pattern.switch t qs).encode ⟨policy, inSwitch⟩) ∧
    (∀ s states os, List.Forall₂ (Stream.Writes s policy) states os →
      ∃ p, s.bind (.switch ⟨states⟩) = .ok p ∧ p.encode (.top policy)
        = .ok (switchObject s.name (os.map fun o => .object o.withoutStreams))) ∧
    (∀ s states p u, Stream.bind s (.switch ⟨states⟩) = .ok p → p.encode (.top policy) = .ok u →
      ∃ conds, u = switchObject s.name conds ∧ List.Forall₂ (fun state cond =>
        ∀ o, s.Writes policy state o → cond = .object o.withoutStreams) states conds) :=
  ⟨fun p _ h => encode_state p h,
    fun s _ _ _ h => encode_switch_of_states h s,
    fun _ _ _ _ _ hname hstates => encode_switch_congr hname hstates _,
    fun _ _ _ h => bind_switch_of_writes h,
    fun _ _ _ _ hp hu => writes_of_bind_switch hp hu⟩

/-- Two conditions on a stream, one of them within some time. -/
def closePair (s : Stream) : Pattern :=
  .and (.condition (.mk ["event", "a"] .eq (.bool true) (some s)))
    (.within (.condition (.mk ["event", "b"] .gt (.int 3) (some s))) .empty)

/-- A stream whose filter cannot be written. -/
def unwritable : Stream :=
  .mk "S" (some (.condition (.mk ["event", "c"] .lt (.double (.infinity false)) none)))

theorem closePair_hoisted :
    (closePair unwritable).encode (.top .double)
        = .error (.invalidScalar (.number (.infinity false))) ∧
      (∃ o, (closePair (.named "S")).encode (.top .double) = .ok o ∧
        (closePair (.named "S")).encode (EncodeContext.top .double).enterSwitch
          = .ok o.withoutStreams ∧
        (Pattern.switch unwritable [closePair unwritable]).encode (.top .double)
          = .ok (switchObject "S" [.object o.withoutStreams])) ∧
      ∃ p v, (Stream.named "S").bind (.switch ⟨[⟨[("a", .scalar (.bool true))]⟩]⟩) = .ok p ∧
        p.encode (.top .double) = .ok (switchObject "S" [v]) ∧
        ∀ o, (Stream.named "S").Writes .double ⟨[("a", .scalar (.bool true))]⟩ o →
          v = .object o.withoutStreams := by
  obtain ⟨hstate, hswitch, hcongr, hbind, hconds⟩ := switch_hoists_stream .double
  have hpair : (closePair (.named "S")).encode (.top .double) = .ok _ := rfl
  have hwrites : (Stream.named "S").Writes .double ⟨[("a", .scalar (.bool true))]⟩ _ :=
    ⟨_, rfl, rfl⟩
  refine ⟨rfl, ⟨_, hpair, hstate _ _ hpair, ?_⟩, ?_⟩
  · have hnamed := hswitch (.named "S") _ [_] false (.cons hpair .nil)
    exact (hcongr _ _ _ _ false rfl rfl).trans hnamed
  · obtain ⟨p, hp, hencode⟩ := hbind _ _ [_] (.cons hwrites .nil)
    obtain ⟨conds, hu, hstates⟩ := hconds _ _ p _ hp hencode
    cases hstates with
    | cons hv hnil =>
        cases hnil
        exact ⟨p, _, hp, hu ▸ hencode, hv⟩

end EventQuery
