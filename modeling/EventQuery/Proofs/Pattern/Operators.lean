import EventQuery.Proofs.Pattern.Wrappers

/-!
The operators that time a pattern.

Each of `after`, `within`, `min`, `max` and `lasting` sets one member of the object of a
pattern. The two distances have a member each. The bounds of a width share one, so that of
`min` and `max` only the one applied last is kept, and both bounds go together by `lasting`
alone.

* `TimingOperator`, `Pattern.timedBy`: the operators, and applying them in turn.
* `encode_timedBy`: applying operators is setting their members in turn.
* `find?_timedBy`: a member is kept unless a later operator sets it again.
* `timing_operators_kept`: what is kept of any of the four operators, in any order.
* `max_drops_min`: the bound that is lost.
-/

namespace EventQuery

/-- An operator that times a pattern. -/
inductive TimingOperator where
  | after (d : Delta)
  | within (d : Delta)
  | min (d : Delta)
  | max (d : Delta)
  | lasting (least most : Delta)

namespace TimingOperator

/-- What an operator makes of a pattern. -/
def apply (p : Pattern) : TimingOperator → Pattern
  | after d => p.after d
  | within d => p.within d
  | min d => p.min d
  | max d => p.max d
  | lasting least most => p.lasting least most

/-- The member that an operator sets. -/
def name : TimingOperator → String
  | after _ => "after"
  | within _ => "within"
  | min _ => "for"
  | max _ => "for"
  | lasting _ _ => "for"

/-- What an operator sets its member to. -/
def setting : TimingOperator → Setting
  | after d => .delta d
  | within d => .delta d
  | min d => .atLeast d
  | max d => .atMost d
  | lasting least most => .between least most

/-- The wrapper that an operator puts around a pattern. -/
def wrapper : TimingOperator → Wrapper
  | after d => .spacing (some d) none
  | within d => .spacing none (some d)
  | min d => .width (some d) none
  | max d => .width none (some d)
  | lasting least most => .width (some least) (some most)

lemma around_wrapper (p : Pattern) (op : TimingOperator) : op.wrapper.around p = op.apply p := by
  cases op <;> rfl

lemma settings_wrapper (op : TimingOperator) : op.wrapper.settings = [(op.name, op.setting)] := by
  cases op <;> rfl

end TimingOperator

/-- The pattern with operators applied to it, one after the other. -/
def Pattern.timedBy (p : Pattern) (ops : List TimingOperator) : Pattern :=
  ops.foldl TimingOperator.apply p

/-- The members that operators set, one after the other. -/
def operatorSettings (ops : List TimingOperator) : Fields Setting :=
  ops.map fun op => (op.name, op.setting)

lemma names_operatorSettings (ops : List TimingOperator) :
    Fields.names (operatorSettings ops) = ops.map TimingOperator.name := by
  rw [Fields.names, operatorSettings, List.map_map]
  rfl

/-- Applying operators is putting wrappers around a pattern. -/
lemma Pattern.wrapped_map_wrapper (p : Pattern) (ops : List TimingOperator) :
    p.wrapped (ops.map TimingOperator.wrapper) = p.timedBy ops := by
  rw [wrapped, List.foldl_map, timedBy]
  simp only [TimingOperator.around_wrapper]

/-- **Operators are written** by writing the pattern and setting their members in turn. -/
lemma encode_timedBy (p : Pattern) (ops : List TimingOperator) (cx : EncodeContext) :
    (p.timedBy ops).encode cx = p.encode cx >>= setMembers (operatorSettings ops) := by
  have hsettings : settingsOf (ops.map TimingOperator.wrapper) = operatorSettings ops := by
    rw [settingsOf, List.flatMap_map, operatorSettings, ← List.flatMap_pure_eq_map]
    simp only [TimingOperator.settings_wrapper]
    rfl
  rw [← p.wrapped_map_wrapper, encode_wrapped, hsettings]

section

variable {cx : EncodeContext} {p : Pattern} {o : Object}

/-- **A member is kept** unless a later operator sets it again. -/
lemma find?_timedBy {before later : List TimingOperator} {op : TimingOperator} {u : Object}
    (hu : (p.timedBy (before ++ op :: later)).encode cx = .ok u)
    (hlater : ∀ next ∈ later, next.name ≠ op.name) {v : Json} (hv : op.setting.encode = .ok v) :
    Fields.find? op.name u = some v := by
  rw [encode_timedBy, bind_eq_ok] at hu
  obtain ⟨o, -, hu⟩ := hu
  have hsplit : operatorSettings (before ++ op :: later)
      = operatorSettings before ++ (op.name, op.setting) :: operatorSettings later := by
    rw [operatorSettings, List.map_append, List.map_cons]
    rfl
  have hname : op.name ∉ Fields.names (operatorSettings later) := by
    rw [names_operatorSettings, List.mem_map]
    rintro ⟨next, hnext, heq⟩
    exact hlater next hnext heq
  rw [hsplit] at hu
  obtain ⟨w, hw, hfind⟩ := find?_setMembers_last hname hu
  rw [hv] at hw
  cases hw
  exact hfind

/-- Operators of which none is applied twice: the member of each is kept unless another one
that sets it is applied later. -/
lemma exists_encode_timedBy (hp : p.encode cx = .ok o) {ops allowed : List TimingOperator}
    (hops : ops.Nodup) (hsub : ops ⊆ allowed)
    (hvalues : ∀ op ∈ allowed, ∃ v, op.setting.encode = .ok v) :
    ∃ u, (p.timedBy ops).encode cx = .ok u ∧
      ∀ before op later v, ops = before ++ op :: later → op.setting.encode = .ok v →
        (∀ other ∈ allowed, other ≠ op → other.name = op.name → other ∉ later) →
          Fields.find? op.name u = some v := by
  have hwritten : ∃ u, (p.timedBy ops).encode cx = .ok u := by
    rw [encode_timedBy, hp, ok_bind, exists_setMembers_iff]
    intro s hs
    obtain ⟨op, hop, rfl⟩ := List.mem_map.mp hs
    exact hvalues op (hsub hop)
  obtain ⟨u, hu⟩ := hwritten
  refine ⟨u, hu, ?_⟩
  rintro before op later v rfl hv hother
  have honce : op ∉ later := (List.nodup_cons.mp hops.of_append_right).1
  refine find?_timedBy hu (fun next hnext hname => ?_) hv
  have hne : next ≠ op := fun heq => honce (heq ▸ hnext)
  exact hother next (hsub (by simp [hnext])) hne hname hnext

/-- **What the operators keep.** Of `after`, `within`, `min` and `max`, each applied at most
once and in any order, a pattern that can be written keeps both distances, and of the bounds
of its width the one applied last; where the bounds are given by `lasting`, it keeps all. -/
theorem timing_operators_kept (hp : p.encode cx = .ok o) {a b c d : Delta} {va vb vc vd : Json}
    (ha : a.encode = .ok va) (hb : b.encode = .ok vb) (hc : c.encode = .ok vc)
    (hd : d.encode = .ok vd) :
    (∀ ops : List TimingOperator, ops.Nodup → ops ⊆ [.after a, .within b, .min c, .max d] →
      ∃ u, (p.timedBy ops).encode cx = .ok u ∧
        (.after a ∈ ops → Fields.find? "after" u = some va) ∧
        (.within b ∈ ops → Fields.find? "within" u = some vb) ∧
        (∀ before later, ops = before ++ .min c :: later → .max d ∉ later →
          Fields.find? "for" u = some (.object [("at-least", vc)])) ∧
        ∀ before later, ops = before ++ .max d :: later → .min c ∉ later →
          Fields.find? "for" u = some (.object [("at-most", vd)])) ∧
    ∀ ops : List TimingOperator, ops.Nodup → ops ⊆ [.after a, .within b, .lasting c d] →
      ∃ u, (p.timedBy ops).encode cx = .ok u ∧
        (.after a ∈ ops → Fields.find? "after" u = some va) ∧
        (.within b ∈ ops → Fields.find? "within" u = some vb) ∧
        (.lasting c d ∈ ops →
          Fields.find? "for" u = some (.object [("at-least", vc), ("at-most", vd)])) := by
  have hmin : (TimingOperator.min c).setting.encode = .ok (.object [("at-least", vc)]) := by
    simp [TimingOperator.setting, Setting.encode, hc]
  have hmax : (TimingOperator.max d).setting.encode = .ok (.object [("at-most", vd)]) := by
    simp [TimingOperator.setting, Setting.encode, hd]
  have hlasting : (TimingOperator.lasting c d).setting.encode
      = .ok (.object [("at-least", vc), ("at-most", vd)]) := by
    simp [TimingOperator.setting, Setting.encode, hc, hd]
  refine ⟨fun ops hops hsub => ?_, fun ops hops hsub => ?_⟩
  · have hvalues : ∀ op ∈ [TimingOperator.after a, .within b, .min c, .max d],
        ∃ v, op.setting.encode = .ok v := by
      simp only [List.forall_mem_cons]
      exact ⟨⟨va, ha⟩, ⟨vb, hb⟩, ⟨_, hmin⟩, ⟨_, hmax⟩, List.forall_mem_nil _⟩
    obtain ⟨u, hu, hkept⟩ := exists_encode_timedBy hp hops hsub hvalues
    refine ⟨u, hu, fun hop => ?_, fun hop => ?_, fun before later heq hmost => ?_,
      fun before later heq hleast => ?_⟩
    · obtain ⟨before, later, heq⟩ := List.append_of_mem hop
      exact hkept before (.after a) later va heq ha (by simp [TimingOperator.name])
    · obtain ⟨before, later, heq⟩ := List.append_of_mem hop
      exact hkept before (.within b) later vb heq hb (by simp [TimingOperator.name])
    · exact hkept before (.min c) later _ heq hmin (by simp [TimingOperator.name, hmost])
    · exact hkept before (.max d) later _ heq hmax (by simp [TimingOperator.name, hleast])
  · have hvalues : ∀ op ∈ [TimingOperator.after a, .within b, .lasting c d],
        ∃ v, op.setting.encode = .ok v := by
      simp only [List.forall_mem_cons]
      exact ⟨⟨va, ha⟩, ⟨vb, hb⟩, ⟨_, hlasting⟩, List.forall_mem_nil _⟩
    obtain ⟨u, hu, hkept⟩ := exists_encode_timedBy hp hops hsub hvalues
    refine ⟨u, hu, fun hop => ?_, fun hop => ?_, fun hop => ?_⟩
    · obtain ⟨before, later, heq⟩ := List.append_of_mem hop
      exact hkept before (.after a) later va heq ha (by simp [TimingOperator.name])
    · obtain ⟨before, later, heq⟩ := List.append_of_mem hop
      exact hkept before (.within b) later vb heq hb (by simp [TimingOperator.name])
    · obtain ⟨before, later, heq⟩ := List.append_of_mem hop
      exact hkept before (.lasting c d) later _ heq hlasting (by simp [TimingOperator.name])

end

/-- A condition that has a width and a distance already. -/
def timedCondition : Pattern :=
  .spacing (.width (.condition (.mk ["event", "x"] .eq (.bool true) none)) none
    (some (daysDelta 9))) (some (daysDelta 8)) none

theorem timedCondition_kept :
    ∃ o va vb vc vd u, timedCondition.encode (.top .double) = .ok o ∧
      (daysDelta 1).encode = .ok va ∧ (daysDelta 2).encode = .ok vb ∧
      (daysDelta 3).encode = .ok vc ∧ (daysDelta 4).encode = .ok vd ∧
      ((((timedCondition.max (daysDelta 4)).within (daysDelta 2)).min (daysDelta 3)).after
        (daysDelta 1)).encode (.top .double) = .ok u ∧
      Fields.find? "after" u = some va ∧ Fields.find? "within" u = some vb ∧
      Fields.find? "for" u = some (.object [("at-least", vc)]) := by
  obtain ⟨o, ho⟩ : ∃ o, timedCondition.encode (.top .double) = .ok o := ⟨_, rfl⟩
  obtain ⟨hfour, -⟩ := timing_operators_kept ho
    (a := daysDelta 1) (b := daysDelta 2) (c := daysDelta 3) (d := daysDelta 4) rfl rfl rfl rfl
  obtain ⟨u, hu, hafter, hwithin, hmin, -⟩ := hfour
    [.max (daysDelta 4), .within (daysDelta 2), .min (daysDelta 3), .after (daysDelta 1)]
    (by simp) (by simp)
  exact ⟨o, _, _, _, _, u, ho, rfl, rfl, rfl, rfl, hu, hafter (by simp), hwithin (by simp),
    hmin [.max (daysDelta 4), .within (daysDelta 2)] [.after (daysDelta 1)] rfl (by simp)⟩

/-- **A bound is lost** where `min` and `max` meet: `max` leaves no lower bound and `min` no
upper one, while `lasting` writes both. -/
theorem max_drops_min :
    ∃ u v w, ((timedCondition.min (daysDelta 1)).max (daysDelta 3)).encode (.top .double) = .ok u ∧
      ((timedCondition.max (daysDelta 3)).min (daysDelta 1)).encode (.top .double) = .ok v ∧
      (timedCondition.lasting (daysDelta 1) (daysDelta 3)).encode (.top .double) = .ok w ∧
      Fields.find? "for" u = some (.object [("at-most", .object [("days", .integer 3)])]) ∧
      Fields.find? "for" v = some (.object [("at-least", .object [("days", .integer 1)])]) ∧
      Fields.find? "for" w = some (.object [("at-least", .object [("days", .integer 1)]),
        ("at-most", .object [("days", .integer 3)])]) ∧
      Fields.find? "for" u ≠ Fields.find? "for" w ∧
      Fields.find? "for" v ≠ Fields.find? "for" w := by
  have hshort : ∀ m m' m'' : String × Json,
      some (Json.object [m]) ≠ some (Json.object [m', m'']) := by
    intro m m' m''
    simp
  exact ⟨_, _, _, rfl, rfl, rfl, rfl, rfl, rfl, hshort _ _ _, hshort _ _ _⟩

end EventQuery
