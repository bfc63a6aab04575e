import EventQuery.Proofs.Binding.Meaning
import EventQuery.Proofs.Pattern.Conditions

/-!
Queries that are put together by the operations of the library.

Starting from shapes, every condition is on a field of the event. Whatever is
written for such a query is of the grammar, has no `null` in it, and shows of each
condition whether it is bound.

* `Pattern.Built`, `Stream.Built`, `Query.Built`: what the operations make.
* `Query.Built.isEventPath`: their conditions are on fields of the event.
* `IsQueryObject`: the objects of queries.
* `built_query_wellFormed`: the properties of a written query.
-/

namespace EventQuery

/-! ### What the operations of the library make -/

mutual

/-- The patterns that the operations make, starting from shapes. -/
inductive Pattern.Built : Pattern → Prop where
  | bind {s : Stream} {o : Occurrence} {p : Pattern} : s.Built → s.bind o = .ok p → p.Built
  | bindOnly {s : Stream} {os : List Occurrence} {p : Pattern} :
      s.Built → s.bindOnly os = .ok p → p.Built
  | filter {shape : Shape} {p : Pattern} : filterPattern shape = .ok p → p.Built
  | conj {ps : List Pattern} {p : Pattern} :
      (∀ q ∈ ps, q.Built) → Pattern.conj ps = .ok p → p.Built
  | disj {ps : List Pattern} {p : Pattern} :
      (∀ q ∈ ps, q.Built) → Pattern.disj ps = .ok p → p.Built
  | parallel (kind : Parallel) {ps : List Pattern} :
      (∀ q ∈ ps, q.Built) → (Pattern.parallel kind ps).Built
  | followedBy {p next : Pattern} : p.Built → next.Built → (p.followedBy next).Built
  | after {p : Pattern} (d : Delta) : p.Built → (p.after d).Built
  | within {p : Pattern} (d : Delta) : p.Built → (p.within d).Built
  | min {p : Pattern} (d : Delta) : p.Built → (p.min d).Built
  | max {p : Pattern} (d : Delta) : p.Built → (p.max d).Built
  | lasting {p : Pattern} (min max : Delta) : p.Built → (p.lasting min max).Built

/-- The streams that the operations make. -/
inductive Stream.Built : Stream → Prop where
  | named (name : String) : (Stream.named name).Built
  | withFilter {s : Stream} {f : Pattern} : s.Built → f.Built → (s.withFilter f).Built
  | filtered {s t : Stream} {shape : Shape} : s.Built → s.filtered shape = .ok t → t.Built

end

/-- The queries that the operations make. -/
inductive Query.Built : Query → Prop where
  | pattern {p : Pattern} : p.Built → (Query.pattern p).Built
  | stream {s : Stream} : s.Built → (Query.stream s).Built
  | switch (s : Switch) : (Query.switch s).Built
  | selection {w : Window} {ps : List Pattern} {s : Selection} :
      (∀ p ∈ ps, p.Built) → w.select ps = .ok s → (Query.selection s).Built

/-! ### Conditions on fields of the event -/

/-- A path that starts at the root of the event and leads to a field. -/
def IsEventPath (path : List String) : Prop := ∃ key rest, path = "event" :: key :: rest

/-- A condition on a stream below a path, or one that the stream itself has. -/
def Condition.BoundBelow (stream : Option Stream) (path : List String) (c : Condition) : Prop :=
  (path <+: c.path ∧ c.stream? = stream) ∨ ∃ s, stream = some s ∧ c ∈ s.writtenConditions

lemma Condition.BoundBelow.of_append {stream : Option Stream} {path rest : List String}
    {c : Condition} (h : c.BoundBelow stream (path ++ rest)) : c.BoundBelow stream path :=
  h.imp_left fun h => ⟨(List.prefix_append path rest).trans h.1, h.2⟩

/-- What holds of the conditions of all operands holds of those of the operands
joined from the right. -/
lemma conditions_foldRight {inSwitch : Bool} {P : Condition → Prop}
    {join : Pattern → Pattern → Pattern}
    (hjoin : ∀ l r, (join l r).writtenConditions inSwitch
      = l.writtenConditions inSwitch ++ r.writtenConditions inSwitch)
    {first : Pattern} {rest : List Pattern}
    (h : ∀ q ∈ first :: rest, ∀ c ∈ q.writtenConditions inSwitch, P c) :
    ∀ c ∈ (Pattern.foldRight join first rest).writtenConditions inSwitch, P c := by
  rw [Pattern.writtenConditions_foldRight hjoin]
  intro c hc
  obtain ⟨q, hq, hcq⟩ := List.mem_flatMap.mp hc
  exact h q hq c hcq

/-- A constraint on a field is bound to conditions below the path of the field. -/
lemma boundBelow_of_bind {stream : Option Stream} {path : List String} {c : Constraint}
    {p : Pattern} (inSwitch : Bool) (h : c.bind stream path = .ok p) :
    ∀ d ∈ p.writtenConditions inSwitch, d.BoundBelow stream path := by
  have hleaf : ∀ path t, ∀ d ∈ (leaf stream path t).writtenConditions inSwitch,
      d.BoundBelow stream path := by
    intro path t d hd
    cases stream with
    | none =>
        rw [leaf, Pattern.writtenConditions_unbound, List.mem_singleton] at hd
        subst hd
        exact Or.inl ⟨List.prefix_rfl, rfl⟩
    | some s =>
        rw [leaf, Pattern.writtenConditions_bound, List.mem_cons] at hd
        rcases hd with rfl | hd
        · exact Or.inl ⟨List.prefix_rfl, rfl⟩
        · cases inSwitch with
          | true => simp at hd
          | false => exact Or.inr ⟨s, rfl, hd⟩
  refine bind_induction (R := fun path _ p => ∀ d ∈ p.writtenConditions inSwitch,
    d.BoundBelow stream path) ?_ ?_ ?_ ?_ ?_ c h
  · exact fun path x => hleaf path ⟨.eq, x⟩
  · exact hleaf
  · intro path cs p ps hcs
    exact conditions_foldRight Pattern.writtenConditions_or (forall_mem_of_forall₂ hcs)
  · intro path cs p ps hcs
    exact conditions_foldRight Pattern.writtenConditions_and (forall_mem_of_forall₂ hcs)
  · intro path fs p ps hfs
    have hbelow := hfs.imp fun e p he d hd => (he d hd).of_append
    exact conditions_foldRight Pattern.writtenConditions_and (forall_mem_of_forall₂ hbelow)

/-- A shape is bound to conditions on fields of the event, each on the stream that it
is bound to, and to those that this stream has. -/
lemma conditions_of_bind_shape {stream : Option Stream} {shape : Shape} {p : Pattern}
    (inSwitch : Bool) (h : shape.bind stream = .ok p) :
    ∀ c ∈ p.writtenConditions inSwitch, (IsEventPath c.path ∧ c.stream? = stream) ∨
      ∃ s, stream = some s ∧ c ∈ s.writtenConditions := by
  simp only [Shape.bind, bind_eq_ok] at h
  obtain ⟨ps, hps, h⟩ := h
  cases ps with
  | nil => cases h
  | cons p ps =>
      cases h
      refine conditions_foldRight Pattern.writtenConditions_and (forall_mem_of_forall₂
        ((bindFields_eq_ok hps).imp fun e q hq c hc => ?_))
      refine (boundBelow_of_bind inSwitch hq c hc).imp_left ?_
      rintro ⟨⟨rest, hrest⟩, hstream⟩
      exact ⟨⟨e.1, rest, hrest.symm⟩, hstream⟩

/-- What is bound to a stream has conditions on fields of the event, if the stream
has. -/
lemma isEventPath_of_bind {s : Stream} (hs : ∀ c ∈ s.writtenConditions, IsEventPath c.path)
    {o : Occurrence} {p : Pattern} (h : s.bind o = .ok p) (inSwitch : Bool) :
    ∀ c ∈ p.writtenConditions inSwitch, IsEventPath c.path := by
  have hshape : ∀ {shape : Shape} {p : Pattern} {b : Bool}, shape.bind (some s) = .ok p →
      ∀ c ∈ p.writtenConditions b, IsEventPath c.path := by
    intro shape p b hp c hc
    rcases conditions_of_bind_shape b hp c hc with ⟨hpath, -⟩ | ⟨t, ht, hc⟩
    · exact hpath
    · exact hs c (Option.some.inj ht ▸ hc)
  cases o with
  | shape shape => exact hshape h
  | switch sw =>
      simp only [Stream.bind, bind_eq_ok, pure_eq_ok, Except.ok.injEq, mapM_eq_ok] at h
      obtain ⟨ps, hps, rfl⟩ := h
      rw [Pattern.writtenConditions_switch]
      intro c hc
      obtain ⟨q, hq, hc⟩ := List.mem_flatMap.mp hc
      exact forall_mem_of_forall₂ (hps.imp fun _ _ hstate => hshape hstate) q hq c hc

/-- The pattern of a shape alone has conditions on fields of the event, none of them
bound. -/
lemma conditions_of_filterPattern {shape : Shape} {p : Pattern} (h : filterPattern shape = .ok p)
    (inSwitch : Bool) :
    ∀ c ∈ p.writtenConditions inSwitch, IsEventPath c.path ∧ c.stream? = none := by
  intro c hc
  rcases conditions_of_bind_shape inSwitch h c hc with hc | ⟨s, hs, -⟩
  · exact hc
  · cases hs

mutual

/-- The conditions of a pattern that was made from shapes are on fields of the
event. -/
lemma Pattern.Built.isEventPath (inSwitch : Bool) :
    ∀ {p : Pattern}, p.Built → ∀ c ∈ p.writtenConditions inSwitch, IsEventPath c.path
  | _, .bind hs h => isEventPath_of_bind hs.isEventPath h inSwitch
  | _, @Pattern.Built.bindOnly _ [o] _ hs h => isEventPath_of_bind hs.isEventPath h inSwitch
  | _, .filter h => fun c hc => (conditions_of_filterPattern h inSwitch c hc).1
  | _, @Pattern.Built.conj (q :: qs) _ hps h => by
      cases h
      exact conditions_foldRight Pattern.writtenConditions_and
        fun q hq => (hps q hq).isEventPath inSwitch
  | _, @Pattern.Built.disj (q :: qs) _ hps h => by
      cases h
      exact conditions_foldRight Pattern.writtenConditions_or
        fun q hq => (hps q hq).isEventPath inSwitch
  | _, .parallel kind hps => by
      rw [Pattern.writtenConditions_parallel]
      intro c hc
      obtain ⟨q, hq, hc⟩ := List.mem_flatMap.mp hc
      exact (hps q hq).isEventPath inSwitch c hc
  | _, .followedBy hp hnext => by
      rw [Pattern.writtenConditions_followedBy]
      exact List.forall_mem_append.mpr ⟨hp.isEventPath inSwitch, hnext.isEventPath inSwitch⟩
  | _, .after d hp => by
      rw [Pattern.after, Pattern.writtenConditions_spacing]
      exact hp.isEventPath inSwitch
  | _, .within d hp => by
      rw [Pattern.within, Pattern.writtenConditions_spacing]
      exact hp.isEventPath inSwitch
  | _, .min d hp => by
      rw [Pattern.min, Pattern.writtenConditions_width]
      exact hp.isEventPath inSwitch
  | _, .max d hp => by
      rw [Pattern.max, Pattern.writtenConditions_width]
      exact hp.isEventPath inSwitch
  | _, .lasting min max hp => by
      rw [Pattern.lasting, Pattern.writtenConditions_width]
      exact hp.isEventPath inSwitch

/-- The conditions of a stream that was made from shapes are on fields of the
event. -/
lemma Stream.Built.isEventPath :
    ∀ {s : Stream}, s.Built → ∀ c ∈ s.writtenConditions, IsEventPath c.path
  | _, .named name => by
      rw [Stream.named, Stream.writtenConditions_unfiltered]
      exact List.forall_mem_nil _
  | _, .withFilter _ hf => by
      rw [Stream.withFilter, Stream.writtenConditions_filtered]
      exact hf.isEventPath false
  | _, .filtered _ h => by
      simp only [Stream.filtered, bind_eq_ok, pure_eq_ok, Except.ok.injEq] at h
      obtain ⟨f, hf, rfl⟩ := h
      rw [Stream.withFilter, Stream.writtenConditions_filtered]
      exact fun c hc => (conditions_of_filterPattern hf false c hc).1

end

/-- The conditions of a query that was made from shapes are on fields of the
event. -/
lemma Query.Built.isEventPath {q : Query} (hq : q.Built) :
    ∀ c ∈ q.writtenConditions, IsEventPath c.path := by
  cases hq with
  | pattern hp => exact hp.isEventPath false
  | stream hs => exact hs.isEventPath
  | switch s => exact List.forall_mem_nil _
  | @selection w ps _ hps h =>
      cases ps with
      | nil => cases h
      | cons p ps =>
          cases h
          exact conditions_foldRight Pattern.writtenConditions_and
            fun q hq => (hps q hq).isEventPath false

/-! ### Written queries -/

/-- The members of a window of time. -/
inductive IsWindowObject : Object → Prop where
  | all : IsWindowObject []
  | between (start stop : String) : IsWindowObject [("between", .strings [start, stop])]
  | after (start : String) : IsWindowObject [("after", .string start)]
  | before (stop : String) : IsWindowObject [("before", .string stop)]

/-- The object of a query. -/
inductive IsQueryObject : Query → Object → Prop where
  | selection (s : Selection) {o w : Object} : IsPatternObject false o → IsWindowObject w →
      IsQueryObject (.selection s) (("select", .object o) :: w)
  | pattern (p : Pattern) {o : Object} : IsPatternObject false o → IsQueryObject (.pattern p) o
  | condition (c : Condition) {o : Object} :
      IsPatternObject false o → IsQueryObject (.condition c) o
  | stream (s : Stream) {o : Object} : IsStreamObject o → IsQueryObject (.stream s) o

lemma isWindowObject_members (w : Window) : IsWindowObject w.members := by
  obtain ⟨_ | s, _ | e⟩ := w
  · exact .all
  · exact .before e.text
  · exact .after s.text
  · exact .between s.text e.text

lemma IsWindowObject.allPlain {w : Object} (h : IsWindowObject w) : ∀ m ∈ w, m.2.AllPlain := by
  cases h <;> simp [Json.allPlain_string, Json.allPlain_strings]

lemma IsWindowObject.conditionObjects {w : Object} (h : IsWindowObject w) :
    ∀ m ∈ w, m.2.conditionObjects = [] := by
  cases h <;> simp [Json.conditionObjects_string, Json.conditionObjects_strings]

lemma IsWindowObject.not_isConditionObject {w : Object} (h : IsWindowObject w) (o : Object) :
    isConditionObject (("select", .object o) :: w) = false := by
  cases h <;> simp [isConditionObject, Fields.find?]

/-- What is written for a query, by its kind. -/
lemma Query.encode_eq_ok {q : Query} {policy : NumberPolicy} {v : Json}
    (h : q.encode ⟨policy⟩ = .ok v) : ∃ o, v = .object o ∧
      match q with
      | .selection s => ∃ u, s.root.encode (.top policy) = .ok u ∧
        o = ("select", .object u) :: s.window.members
      | .pattern p => p.encode (.top policy) = .ok o
      | .condition c => (Pattern.condition c).encode (.top policy) = .ok o
      | .stream s => s.encode (.top policy) = .ok o
      | .switch _ => False := by
  cases q with
  | selection s =>
      simp only [Query.encode, Selection.encode, bind_eq_ok, pure_eq_ok, Except.ok.injEq] at h
      obtain ⟨_, ⟨u, hu, rfl⟩, rfl⟩ := h
      exact ⟨_, rfl, u, hu, rfl⟩
  | pattern p =>
      simp only [Query.encode, bind_eq_ok, pure_eq_ok, Except.ok.injEq] at h
      obtain ⟨o, ho, rfl⟩ := h
      exact ⟨o, rfl, ho⟩
  | condition c =>
      simp only [Query.encode, bind_eq_ok, pure_eq_ok, Except.ok.injEq] at h
      obtain ⟨o, ho, rfl⟩ := h
      exact ⟨o, rfl, ho⟩
  | stream s =>
      simp only [Query.encode, bind_eq_ok, pure_eq_ok, Except.ok.injEq] at h
      obtain ⟨o, ho, rfl⟩ := h
      exact ⟨o, rfl, ho⟩
  | switch s => cases h

/-- Whatever query is written is of the grammar. -/
lemma isQueryObject_of_encode {q : Query} {policy : NumberPolicy} {v : Json}
    (h : q.encode ⟨policy⟩ = .ok v) : ∃ o, v = .object o ∧ IsQueryObject q o := by
  obtain ⟨o, rfl, ho⟩ := q.encode_eq_ok h
  refine ⟨o, rfl, ?_⟩
  cases q with
  | selection s =>
      obtain ⟨u, hu, rfl⟩ := ho
      have hroot := isPatternObject_of_encode.1 false _ u hu
      exact .selection s hroot (isWindowObject_members s.window)
  | pattern p => exact .pattern p (isPatternObject_of_encode.1 false p o ho)
  | condition c => exact .condition c (isPatternObject_of_encode.1 false (.condition c) o ho)
  | stream s => exact .stream s (isPatternObject_of_encode.2 false s o ho)
  | switch s => exact ho.elim

/-- The conditions of whatever query is written are written one by one. -/
lemma showsBinding_of_encode_query {q : Query} {policy : NumberPolicy} {v : Json}
    (h : q.encode ⟨policy⟩ = .ok v) :
    List.Forall₂ Condition.ShowsBinding q.writtenConditions v.conditionObjects := by
  obtain ⟨o, rfl, ho⟩ := q.encode_eq_ok h
  cases q with
  | selection s =>
      obtain ⟨u, hu, rfl⟩ := ho
      have hwindow := isWindowObject_members s.window
      rw [Json.conditionObjects_object, hwindow.not_isConditionObject, List.flatMap_cons,
        List.flatMap_eq_nil_iff.mpr hwindow.conditionObjects, List.append_nil]
      exact showsBinding_of_encode.1 false s.root u hu
  | pattern p => exact showsBinding_of_encode.1 false p o ho
  | condition c => exact showsBinding_of_encode.1 false (.condition c) o ho
  | stream s => exact showsBinding_of_encode.2 false s o ho
  | switch s => exact ho.elim

/-- All values in the object of a query are plain. -/
lemma IsQueryObject.allPlain {q : Query} {o : Object} (h : IsQueryObject q o) :
    (Json.object o).AllPlain := by
  cases h with
  | selection s ho hw =>
      refine Json.allPlain_object.mpr ⟨?_, List.forall_mem_cons.mpr ⟨ho.allPlain, hw.allPlain⟩⟩
      cases hw <;> simp [Fields.Distinct, Fields.names]
  | pattern p ho => exact ho.allPlain
  | condition c ho => exact ho.allPlain
  | stream s ho => exact ho.allPlain

/-- **Every written query is well formed.** What is written for a query that was made
from shapes is an object of the grammar without `null` in it. Each condition in it
is on a field of the event, and it has the mark of a span exactly if it was bound
to a stream. The conditions of a shape that is bound to none never have it. -/
theorem built_query_wellFormed (policy : NumberPolicy) :
    (∀ q v, Query.Built q → q.encode ⟨policy⟩ = .ok v →
      (∃ o, v = .object o ∧ IsQueryObject q o) ∧ Json.null ∉ v.subvalues ∧
        (∀ o ∈ v.conditionObjects, ∃ key rest,
          Fields.find? "path" o = some (.strings ("event" :: key :: rest))) ∧
        List.Forall₂ Condition.ShowsBinding q.writtenConditions v.conditionObjects) ∧
    ∀ shape p o, filterPattern shape = .ok p → p.encode (.top policy) = .ok o →
      ∀ u ∈ (Json.object o).conditionObjects, Fields.find? "type" u = none := by
  constructor
  · intro q v hq h
    obtain ⟨o, rfl, ho⟩ := isQueryObject_of_encode h
    have hconds := showsBinding_of_encode_query h
    refine ⟨⟨o, rfl, ho⟩, fun hnull => ho.allPlain _ hnull, ?_, hconds⟩
    refine forall_mem_of_forall₂ (((List.forall₂_and_left _ _).mpr ⟨hq.isEventPath, hconds⟩).imp
      fun c u hc => ?_)
    obtain ⟨⟨key, rest, hpath⟩, hu⟩ := hc
    exact ⟨key, rest, hpath ▸ hu.path⟩
  · intro shape p o hp h
    have hconds := showsBinding_of_encode.1 false p o h
    refine forall_mem_of_forall₂ (((List.forall₂_and_left _ _).mpr
      ⟨conditions_of_filterPattern hp false, hconds⟩).imp fun c u hc => ?_)
    obtain ⟨⟨-, hnone⟩, hu⟩ := hc
    rw [hu.type, hnone]
    rfl

/-- Light wind, as a filter. -/
def lightWind : Shape := ⟨[("wind", .nested [("gust", .comparison ⟨.lt, .int 3⟩)])]⟩

/-- A switch on a filtered stream with two states, and some time after it a condition
on the same stream, from an instant on. -/
def stormQuery : Except QueryError Query := do
  let s ← (Stream.named "weather").filtered lightWind
  let change ← s.bind (.switch ⟨[⟨[("sunny", .scalar (.bool true))]⟩, lightWind]⟩)
  let storm ← s.bindOnly [.shape ⟨[("gust", .anyOf [.comparison ⟨.gt, .int 30⟩])]⟩]
  let selection ← (Window.all.startingAt ⟨"2017-06-01"⟩).select
    [change.followedBy ((storm.after (Delta.empty.set .hours (.ofInt 2))).min .empty)]
  return .selection selection

lemma built_stormQuery {q : Query} (h : stormQuery = .ok q) : q.Built := by
  simp only [stormQuery, bind_eq_ok, pure_eq_ok, Except.ok.injEq] at h
  obtain ⟨s, hs, change, hchange, storm, hstorm, selection, hselection, rfl⟩ := h
  have hstream : s.Built := .filtered (.named "weather") hs
  have hafter := Pattern.Built.after (Delta.empty.set .hours (.ofInt 2)) (.bindOnly hstream hstorm)
  have hsequence := Pattern.Built.followedBy (.bind hstream hchange) (.min .empty hafter)
  exact .selection (List.forall_mem_singleton.mpr hsequence) hselection

theorem stormQuery_wellFormed :
    ∃ q v, stormQuery = .ok q ∧ q.Built ∧ q.encode ⟨.double⟩ = .ok v ∧
      Json.null ∉ v.subvalues ∧ v.conditionObjects.length = 4 ∧
      (∀ o ∈ v.conditionObjects, ∃ key rest,
        Fields.find? "path" o = some (.strings ("event" :: key :: rest))) ∧
      ∃ p o, filterPattern lightWind = .ok p ∧ p.encode (.top .double) = .ok o ∧
        ∀ u ∈ (Json.object o).conditionObjects, Fields.find? "type" u = none := by
  obtain ⟨hqueries, hfilters⟩ := built_query_wellFormed .double
  have hq : stormQuery = .ok _ := rfl
  obtain ⟨-, hnull, hpaths, hconds⟩ := hqueries _ _ (built_stormQuery hq) rfl
  exact ⟨_, _, hq, built_stormQuery hq, rfl, hnull, hconds.length_eq.symm, hpaths, _, _, rfl, rfl,
    hfilters lightWind _ _ rfl rfl⟩

end EventQuery
