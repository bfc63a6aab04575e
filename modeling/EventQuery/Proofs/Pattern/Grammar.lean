import EventQuery.Proofs.Json.Subvalues
import EventQuery.Proofs.Pattern.Hoisting

/-!
The grammar of written patterns.

A written pattern is an object of one of a few forms, each with a fixed list of
members, and after them the members that wrappers set. The grammar is said
without patterns; inside a switch it leaves no place for the stream of a
condition.

* `IsOperandObject`, `IsDeltaObject`, `IsBoundsObject`: the objects of literals,
  deltas and widths.
* `IsPatternObject`, `IsStreamObject`: the objects of patterns and of streams.
* `encode_induction`: what holds of every written pattern once it passes from the
  written parts to the whole, whatever wrappers there are.
* `isPatternObject_of_encode`: whatever is written is of the grammar.
-/

namespace EventQuery

/-! ### Literals, deltas and widths -/

/-- A number as queries have them: a double, or an integer of 64 bits. -/
inductive IsNumber : Json → Prop where
  | integer {n : Int} : fitsInt64 n = true → IsNumber (.integer n)
  | double (x : Finite) : IsNumber (.double x)

/-- The object of a value under a type. -/
def typedObject (type : String) (v : Json) : Object := [("type", .string type), ("val", v)]

/-- The object of a literal: a type, and a value of the kind that it names. -/
inductive IsOperandObject : Object → Prop where
  | double {v : Json} : IsNumber v → IsOperandObject (typedObject "double" v)
  | int {n : Int} : fitsInt64 n = true → IsOperandObject (typedObject "int" (.integer n))
  | bool (b : Bool) : IsOperandObject (typedObject "bool" (.bool b))
  | string (s : String) : IsOperandObject (typedObject "string" (.string s))

/-- The object of a delta: numbers under the names of units. -/
structure IsDeltaObject (d : Object) : Prop where
  distinct : Fields.Distinct d
  members : ∀ m ∈ d, (∃ u : TimeUnit, m.1 = u.name) ∧ IsNumber m.2

/-- The object of a width: one bound or both. -/
structure IsBoundsObject (b : Object) : Prop where
  nonempty : b ≠ []
  distinct : Fields.Distinct b
  members : ∀ m ∈ b, (m.1 = "at-least" ∨ m.1 = "at-most") ∧
    ∃ d, m.2 = .object d ∧ IsDeltaObject d

/-- A member that a wrapper sets. -/
inductive IsTimingMember : String × Json → Prop where
  | after {d : Object} : IsDeltaObject d → IsTimingMember ("after", .object d)
  | within {d : Object} : IsDeltaObject d → IsTimingMember ("within", .object d)
  | width {b : Object} : IsBoundsObject b → IsTimingMember ("for", .object b)

/-- The members that a stack of wrappers sets. -/
structure IsTimingMembers (t : Object) : Prop where
  distinct : Fields.Distinct t
  members : ∀ m ∈ t, IsTimingMember m

/-! ### Patterns and streams -/

mutual

/-- The object of a pattern, in a switch or not. -/
inductive IsPatternObject : Bool → Object → Prop where
  /-- A condition on no stream. -/
  | unbound {inSwitch : Bool} {path : List String} {op : Operator} {arg t : Object} :
      IsOperandObject arg → IsTimingMembers t → IsPatternObject inSwitch
        ([("path", .strings path), ("op", .string op.token), ("arg", .object arg)] ++ t)
  /-- A condition on the stream of the switch around it. -/
  | state {path : List String} {op : Operator} {arg t : Object} :
      IsOperandObject arg → IsTimingMembers t → IsPatternObject true
        ([("path", .strings path), ("op", .string op.token), ("arg", .object arg),
          ("type", .string "span")] ++ t)
  /-- A condition with its stream. -/
  | bound {path : List String} {op : Operator} {arg s t : Object} :
      IsOperandObject arg → IsStreamObject s → IsTimingMembers t → IsPatternObject false
        ([("path", .strings path), ("op", .string op.token), ("arg", .object arg),
          ("stream", .object s), ("type", .string "span")] ++ t)
  /-- Two patterns under a boolean operator. -/
  | boolean {inSwitch : Bool} {op : String} {l r t : Object} : op = "&&" ∨ op = "||" →
      IsPatternObject inSwitch l → IsPatternObject inSwitch r → IsTimingMembers t →
        IsPatternObject inSwitch
          ([("expr", .string op), ("args", .array [.object l, .object r])] ++ t)
  /-- Patterns in sequence or in parallel. -/
  | parts {inSwitch : Bool} {type : String} {os : List Object} {t : Object} :
      type ∈ ["serial", "any", "all", "during"] → (∀ o ∈ os, IsPatternObject inSwitch o) →
        IsTimingMembers t → IsPatternObject inSwitch
          ([("type", .string type), ("conds", .array (os.map .object))] ++ t)
  /-- A switch, with its stream by name only. -/
  | switch {inSwitch : Bool} {name : String} {os : List Object} {t : Object} :
      (∀ o ∈ os, IsPatternObject true o) → IsTimingMembers t → IsPatternObject inSwitch
        ([("type", .string "switch"), ("stream", .object [("name", .string name)]),
          ("conds", .array (os.map .object))] ++ t)

/-- The object of a stream. -/
inductive IsStreamObject : Object → Prop where
  | unfiltered (name : String) : IsStreamObject [("name", .string name)]
  | filtered (name : String) {f : Object} : IsPatternObject false f →
      IsStreamObject [("name", .string name), ("filter", .object f)]

end

/-! ### What literals, deltas and widths are written as -/

lemma fitsInt64_toInt (n : Int64) : fitsInt64 n.toInt = true := by
  have hle := n.le_toInt
  have hlt := n.toInt_lt
  simp only [fitsInt64, decide_eq_true_eq]
  omega

lemma isOperandObject_of_encode {x : Scalar} {policy : NumberPolicy} {v : Json}
    (h : x.encode policy = .ok v) : ∃ arg, v = .object arg ∧ IsOperandObject arg := by
  simp only [Scalar.encode, bind_eq_ok, pure_eq_ok, Except.ok.injEq] at h
  obtain ⟨w, hw, rfl⟩ := h
  refine ⟨_, rfl, ?_⟩
  rcases x with n | (x | x) | b | s
  · cases hw
    cases policy with
    | double => exact .double (.integer (fitsInt64_toInt n))
    | integralAsInt => exact .int (fitsInt64_toInt n)
  · cases policy with
    | double =>
        cases hw
        exact .double (.double x)
    | integralAsInt =>
        cases hx : x.toInt64? with
        | none =>
            simp only [Scalar.value, hx, Except.ok.injEq] at hw
            subst hw
            simp only [Scalar.tag, Double.toInt64?, hx]
            exact .double (.double x)
        | some n =>
            simp only [Scalar.value, hx, Except.ok.injEq] at hw
            subst hw
            simp only [Scalar.tag, Double.toInt64?, hx]
            exact .int (fitsInt64_toInt n)
  · cases hw
  · cases hw
    exact .bool b
  · cases hw
    exact .string s

lemma isNumber_amountNumber (x : Finite) : IsNumber (.number (Delta.amountNumber x)) := by
  rw [Delta.amountNumber]
  split
  · rename_i n hn
    exact .integer (fitsInt64_toInt n)
  · exact .double x

lemma isDeltaObject_of_encode {d : Delta} {v : Json} (h : d.encode = .ok v) :
    ∃ o, v = .object o ∧ IsDeltaObject o := by
  simp only [Delta.encode, bind_eq_ok, pure_eq_ok, Except.ok.injEq] at h
  obtain ⟨ms, hms, rfl⟩ := h
  obtain ⟨hdist, hnames, hlook⟩ := Delta.encodeUnits_eq_ok (by decide) hms
  refine ⟨ms, rfl, hdist, fun m hm => ?_⟩
  obtain ⟨u, hu, hname⟩ := List.mem_map.mp (hnames (List.mem_map_of_mem hm))
  have hfound : Fields.find? u.name ms = some m.2 := Fields.find?_of_mem hdist (hname ▸ hm)
  have hwritten := hlook u hu
  rw [hfound] at hwritten
  rcases hwritten.eq_none_or with ⟨-, h⟩ | ⟨x, w, -, hw, hx⟩
  · cases h
  · obtain ⟨y, -, rfl⟩ := Delta.encodeAmount_eq_ok hx
    exact ⟨⟨u, hname.symm⟩, Option.some.inj hw ▸ isNumber_amountNumber y⟩

/-- What is written for an optional delta is the object of a delta. -/
lemma isDeltaObject_of_written {o : Option Delta} {v : Json}
    (h : Written Delta.encode o (some v)) : ∃ d, v = .object d ∧ IsDeltaObject d := by
  rcases h.eq_none_or with ⟨-, h⟩ | ⟨d, w, -, hw, hd⟩
  · cases h
  · exact Option.some.inj hw ▸ isDeltaObject_of_encode hd

lemma isBoundsObject_of_encodeBounds {min max : Option Delta} {bounds : Object}
    (h : encodeBounds min max = .ok bounds) (hne : bounds ≠ []) : IsBoundsObject bounds := by
  obtain ⟨a, b, ha, hb, hdist, hlook⟩ := encodeBounds_eq_ok h
  refine ⟨hne, hdist, fun m hm => ?_⟩
  have hfound := hlook m.1
  rw [Fields.find?_of_mem hdist hm] at hfound
  by_cases hmost : m.1 = "at-most"
  · simp only [hmost, if_true, String.reduceEq, if_false, Option.or_none] at hfound
    exact ⟨Or.inr hmost, isDeltaObject_of_written (hfound ▸ hb)⟩
  · by_cases hleast : m.1 = "at-least"
    · simp only [hleast, String.reduceEq, if_false, if_true, Option.none_or] at hfound
      exact ⟨Or.inl hleast, isDeltaObject_of_written (hfound ▸ ha)⟩
    · simp [hmost, hleast] at hfound

/-! ### Members that wrappers set -/

lemma isTimingMembers_nil : IsTimingMembers [] :=
  ⟨List.nodup_nil, List.forall_mem_nil _⟩

lemma IsTimingMembers.insert {t : Object} (ht : IsTimingMembers t) {key : String} {v : Json}
    (hm : IsTimingMember (key, v)) : IsTimingMembers (Fields.insert key v t) := by
  refine ⟨Fields.distinct_insert ht.distinct key v, fun m h => ?_⟩
  rcases Fields.mem_insert h with rfl | h
  · exact hm
  · exact ht.members m h

lemma IsTimingMember.name_mem {m : String × Json} (h : IsTimingMember m) :
    m.1 ∈ timingNames := by
  cases h <;> simp [timingNames]

/-- Setting an optional delta changes what comes after the core only. -/
lemma setDelta_append {key : String} {d : Option Delta} {u t o : Object}
    (hkey : ∀ e, IsDeltaObject e → IsTimingMember (key, .object e)) (hu : key ∉ Fields.names u)
    (ht : IsTimingMembers t) (h : setDelta key d (u ++ t) = .ok o) :
    ∃ t', o = u ++ t' ∧ IsTimingMembers t' := by
  cases d with
  | none =>
      cases h
      exact ⟨t, rfl, ht⟩
  | some d =>
      simp only [setDelta, bind_eq_ok, pure_eq_ok, Except.ok.injEq] at h
      obtain ⟨v, hv, rfl⟩ := h
      obtain ⟨e, rfl, he⟩ := isDeltaObject_of_encode hv
      exact ⟨_, Fields.insert_append hu _ t, ht.insert (hkey e he)⟩

/-- Setting a width changes what comes after the core only. -/
lemma setWidth_append {min max : Option Delta} {bounds u t : Object}
    (h : encodeBounds min max = .ok bounds) (hu : "for" ∉ Fields.names u)
    (ht : IsTimingMembers t) : ∃ t', setWidth bounds (u ++ t) = u ++ t' ∧ IsTimingMembers t' := by
  rw [setWidth]
  split
  · exact ⟨t, rfl, ht⟩
  · rename_i hne
    exact ⟨_, Fields.insert_append hu _ t, ht.insert (.width (isBoundsObject_of_encodeBounds h hne))⟩

/-- **The object of a pattern** is that of its core, and after it what the wrappers
set. -/
theorem encode_append {cx : EncodeContext} (p : Pattern) : ∀ {o}, p.encode cx = .ok o →
    ∃ u t, o = u ++ t ∧ CoreObject cx p.core u ∧ IsTimingMembers t := by
  induction p using Pattern.wrapper_ind with
  | core p hp =>
      intro o h
      rw [Pattern.core_of_isCore hp]
      exact ⟨o, [], (List.append_nil o).symm, coreObject_of_encode hp h, isTimingMembers_nil⟩
  | spacing p after within ih =>
      intro o h
      simp only [Pattern.encode, bind_eq_ok] at h
      obtain ⟨v, hv, w, hw, ho⟩ := h
      obtain ⟨u, t, rfl, hcore, ht⟩ := ih hv
      have hnames : ∀ key ∈ timingNames, key ∉ Fields.names u :=
        fun key hkey => Fields.find?_eq_none_iff.mp (hcore.names.2 key hkey)
      obtain ⟨t, rfl, ht⟩ := setDelta_append (fun _ => .after) (hnames _ (by decide)) ht hw
      obtain ⟨t, rfl, ht⟩ := setDelta_append (fun _ => .within) (hnames _ (by decide)) ht ho
      exact ⟨u, t, rfl, hcore, ht⟩
  | width p min max ih =>
      intro o h
      simp only [Pattern.encode, bind_eq_ok, pure_eq_ok, Except.ok.injEq] at h
      obtain ⟨v, hv, bounds, hbounds, rfl⟩ := h
      obtain ⟨u, t, rfl, hcore, ht⟩ := ih hv
      have hname : "for" ∉ Fields.names u :=
        Fields.find?_eq_none_iff.mp (hcore.names.2 _ (by decide))
      obtain ⟨t, ht', ht⟩ := setWidth_append hbounds hname ht
      exact ⟨u, t, ht', hcore, ht⟩

/-! ### Induction over what is written -/

/-- A list of patterns is written as a list of objects. -/
lemma objects_of_encodeParts {cx : EncodeContext} {ps : List Pattern} {vs : List Json}
    (h : encodeParts cx ps = .ok vs) :
    ∃ os, vs = os.map .object ∧ List.Forall₂ (fun p o => p.encode cx = .ok o) ps os := by
  rw [encodeParts_eq_ok] at h
  induction h with
  | nil => exact ⟨[], rfl, .nil⟩
  | cons hp _ ih =>
      obtain ⟨o, ho, rfl⟩ := hp
      obtain ⟨os, rfl, hos⟩ := ih
      exact ⟨o :: os, rfl, .cons ho hos⟩

/-- A relation between patterns and the objects they are written as, and one
between streams and theirs, hold of whatever is written, once they pass from the
parts to the forms of the grammar. Wrappers do not count. -/
theorem encode_induction {policy : NumberPolicy} {R : Bool → Pattern → Object → Prop}
    {S : Stream → Object → Prop}
    (core : ∀ {b p o}, R b p.core o → R b p o)
    (unbound : ∀ {b path op x arg t}, x.encode policy = .ok arg → IsTimingMembers t →
      R b (.condition (.mk path op x none)) (comparisonObject path op arg ++ t))
    (state : ∀ {path op x s arg t}, x.encode policy = .ok arg → IsTimingMembers t →
      R true (.condition (.mk path op x (some s)))
        (comparisonObject path op arg ++ [spanMember] ++ t))
    (bound : ∀ {path op x s arg u t}, x.encode policy = .ok arg → S s u → IsTimingMembers t →
      R false (.condition (.mk path op x (some s)))
        (comparisonObject path op arg ++ [("stream", .object u), spanMember] ++ t))
    (and : ∀ {b l r o u t}, R b l o → R b r u → IsTimingMembers t →
      R b (.and l r) (booleanObject "&&" o u ++ t))
    (or : ∀ {b l r o u t}, R b l o → R b r u → IsTimingMembers t →
      R b (.or l r) (booleanObject "||" o u ++ t))
    (serial : ∀ {b ps os t}, List.Forall₂ (R b) ps os → IsTimingMembers t →
      R b (.serial ps) (partsObject "serial" (os.map .object) ++ t))
    (parallel : ∀ {b kind ps os t}, List.Forall₂ (R b) ps os → IsTimingMembers t →
      R b (.parallel kind ps) (partsObject kind.name (os.map .object) ++ t))
    (switch : ∀ {b s ps os t}, List.Forall₂ (R true) ps os → IsTimingMembers t →
      R b (.switch s ps) (switchObject s.name (os.map .object) ++ t))
    (unfiltered : ∀ name, S (.mk name none) [("name", .string name)])
    (filtered : ∀ {name f o}, R false f o →
      S (.mk name (some f)) [("name", .string name), ("filter", .object o)]) :
    (∀ b p o, Pattern.encode ⟨policy, b⟩ p = .ok o → R b p o) ∧
      ∀ b s o, Stream.encode ⟨policy, b⟩ s = .ok o → S s o := by
  have hwhole : ∀ {p : Pattern}, (∀ b u t, CoreObject ⟨policy, b⟩ p.core u → IsTimingMembers t →
      R b p.core (u ++ t)) → ∀ b o, p.encode ⟨policy, b⟩ = .ok o → R b p o := by
    intro p hp b o h
    obtain ⟨u, t, rfl, hu, ht⟩ := encode_append p h
    exact core (hp b u t hu ht)
  have hstream : ∀ {s : Stream}, (∀ f, s.filter? = some f → ∀ b o,
      f.encode ⟨policy, b⟩ = .ok o → R b f o) → ∀ b o, s.encode ⟨policy, b⟩ = .ok o → S s o := by
    rintro ⟨name, f | f⟩ hf b o h
    · cases h
      exact unfiltered name
    · simp only [Stream.encode, bind_eq_ok, pure_eq_ok, Except.ok.injEq] at h
      obtain ⟨u, hu, rfl⟩ := h
      exact filtered (hf f rfl false u hu)
  -- The timing is left open, so that a wrapper passes the claim on as it is.
  have hcore : ∀ p : Pattern, ∀ b u t, CoreObject ⟨policy, b⟩ p.core u → IsTimingMembers t →
      R b p.core (u ++ t) := by
    have hparts : ∀ {ps : List Pattern} {b vs}, (∀ p ∈ ps, ∀ b u t,
        CoreObject ⟨policy, b⟩ p.core u → IsTimingMembers t → R b p.core (u ++ t)) →
        encodeParts ⟨policy, b⟩ ps = .ok vs →
        ∃ os, vs = os.map .object ∧ List.Forall₂ (R b) ps os := by
      intro ps b vs ih h
      obtain ⟨os, rfl, hos⟩ := objects_of_encodeParts h
      have hall := (List.forall₂_and_left _ _).mpr ⟨ih, hos⟩
      exact ⟨os, rfl, hall.imp fun p o hpo => hwhole hpo.1 b o hpo.2⟩
    intro p
    induction p using Pattern.ind with
    | unbound path op x =>
        intro b u t hu ht
        cases hu with
        | unbound hx => exact unbound hx ht
    | bound path op x s ih =>
        intro b u t hu ht
        cases hu with
        | hidden hb hx =>
            cases hb
            exact state hx ht
        | bound hb hx hs =>
            cases hb
            exact bound hx (hstream (fun f hf => hwhole (ih f hf)) false _ hs) ht
    | and l r ihl ihr =>
        intro b u t hu ht
        cases hu with
        | and hl hr => exact and (hwhole ihl b _ hl) (hwhole ihr b _ hr) ht
    | or l r ihl ihr =>
        intro b u t hu ht
        cases hu with
        | or hl hr => exact or (hwhole ihl b _ hl) (hwhole ihr b _ hr) ht
    | serial ps ih =>
        intro b u t hu ht
        cases hu with
        | serial hps =>
            obtain ⟨os, rfl, hos⟩ := hparts ih hps
            exact serial hos ht
    | parallel kind ps ih =>
        intro b u t hu ht
        cases hu with
        | parallel hps =>
            obtain ⟨os, rfl, hos⟩ := hparts ih hps
            exact parallel hos ht
    | spacing p after within ih => exact ih
    | width p min max ih => exact ih
    | switch s ps ih =>
        intro b u t hu ht
        cases hu with
        | switch hps =>
            obtain ⟨os, rfl, hos⟩ := hparts ih hps
            exact switch hos ht
  exact ⟨fun b p o => hwhole (hcore p) b o, fun b s o => hstream (fun f _ => hwhole (hcore f)) b o⟩

/-- **Whatever is written is of the grammar.** -/
theorem isPatternObject_of_encode {policy : NumberPolicy} :
    (∀ b p o, Pattern.encode ⟨policy, b⟩ p = .ok o → IsPatternObject b o) ∧
      ∀ b s o, Stream.encode ⟨policy, b⟩ s = .ok o → IsStreamObject o := by
  refine encode_induction (R := fun b _ o => IsPatternObject b o) (S := fun _ o => IsStreamObject o)
    id ?_ ?_ ?_ ?_ ?_ ?_ ?_ ?_ .unfiltered fun {name} {_} {_} hf => .filtered name hf
  · intro b path op x arg t hx ht
    obtain ⟨v, rfl, hv⟩ := isOperandObject_of_encode hx
    exact .unbound hv ht
  · intro path op x s arg t hx ht
    obtain ⟨v, rfl, hv⟩ := isOperandObject_of_encode hx
    exact .state hv ht
  · intro path op x s arg u t hx hu ht
    obtain ⟨v, rfl, hv⟩ := isOperandObject_of_encode hx
    exact .bound hv hu ht
  · exact fun hl hr ht => .boolean (Or.inl rfl) hl hr ht
  · exact fun hl hr ht => .boolean (Or.inr rfl) hl hr ht
  · exact fun hos ht => .parts (by simp) (forall_mem_of_forall₂ hos) ht
  · intro b kind ps os t hos ht
    have hkind : kind.name ∈ ["serial", "any", "all", "during"] := by
      cases kind <;> simp [Parallel.name]
    exact .parts hkind (forall_mem_of_forall₂ hos) ht
  · exact fun hos ht => .switch (forall_mem_of_forall₂ hos) ht

/-! ### Values of the grammar are plain -/

lemma IsNumber.allPlain {v : Json} : IsNumber v → v.AllPlain
  | .integer h => Json.allPlain_integer h
  | .double x => Json.allPlain_double x

lemma IsOperandObject.allPlain {o : Object} (h : IsOperandObject o) :
    (Json.object o).AllPlain := by
  have htyped : ∀ type {v : Json}, v.AllPlain → (Json.object (typedObject type v)).AllPlain := by
    intro type v hv
    simp [typedObject, Json.allPlain_object, Fields.Distinct, Fields.names, Json.allPlain_string, hv]
  cases h with
  | double hv => exact htyped _ hv.allPlain
  | int hn => exact htyped _ (Json.allPlain_integer hn)
  | bool b => exact htyped _ (Json.allPlain_bool b)
  | string s => exact htyped _ (Json.allPlain_string s)

lemma IsDeltaObject.allPlain {o : Object} (h : IsDeltaObject o) : (Json.object o).AllPlain :=
  Json.allPlain_object.mpr ⟨h.distinct, fun m hm => (h.members m hm).2.allPlain⟩

lemma IsBoundsObject.allPlain {o : Object} (h : IsBoundsObject o) : (Json.object o).AllPlain := by
  refine Json.allPlain_object.mpr ⟨h.distinct, fun m hm => ?_⟩
  obtain ⟨-, d, hd, hdelta⟩ := h.members m hm
  exact hd ▸ hdelta.allPlain

/-- A core whose members are plain is plain, with any wrappers around it. -/
lemma IsTimingMembers.allPlain_append {t : Object} (ht : IsTimingMembers t) {u : Object}
    (hdist : Fields.Distinct u) (hnames : ∀ key ∈ timingNames, key ∉ Fields.names u)
    (hu : ∀ m ∈ u, m.2.AllPlain) : (Json.object (u ++ t)).AllPlain := by
  refine Json.allPlain_object.mpr ⟨?_, List.forall_mem_append.mpr ⟨hu, fun m hm => ?_⟩⟩
  · rw [Fields.Distinct, Fields.names, List.map_append, List.nodup_append]
    refine ⟨hdist, ht.distinct, ?_⟩
    rintro _ hkey key hkey' rfl
    obtain ⟨m, hm, rfl⟩ := List.mem_map.mp hkey'
    exact hnames _ (ht.members m hm).name_mem hkey
  · have hmember := ht.members m hm
    cases hmember with
    | after hd => exact hd.allPlain
    | within hd => exact hd.allPlain
    | width hb => exact hb.allPlain

lemma allPlain_unfiltered (name : String) :
    (Json.object [("name", .string name)]).AllPlain := by
  simp [Json.allPlain_object, Fields.Distinct, Fields.names, Json.allPlain_string]

mutual

/-- All values in the object of a pattern are plain. -/
lemma IsPatternObject.allPlain :
    ∀ {inSwitch : Bool} {o : Object}, IsPatternObject inSwitch o → (Json.object o).AllPlain
  | _, _, .unbound harg ht => by
      refine ht.allPlain_append (by simp [Fields.Distinct, Fields.names])
        (by simp [timingNames, Fields.names]) ?_
      simp [Json.allPlain_string, Json.allPlain_strings, harg.allPlain]
  | _, _, .state harg ht => by
      refine ht.allPlain_append (by simp [Fields.Distinct, Fields.names])
        (by simp [timingNames, Fields.names]) ?_
      simp [Json.allPlain_string, Json.allPlain_strings, harg.allPlain]
  | _, _, .bound harg hs ht => by
      refine ht.allPlain_append (by simp [Fields.Distinct, Fields.names])
        (by simp [timingNames, Fields.names]) ?_
      simp [Json.allPlain_string, Json.allPlain_strings, harg.allPlain, hs.allPlain]
  | _, _, .boolean _ hl hr ht => by
      refine ht.allPlain_append (by simp [Fields.Distinct, Fields.names])
        (by simp [timingNames, Fields.names]) ?_
      simp [Json.allPlain_string, Json.allPlain_array, hl.allPlain, hr.allPlain]
  | _, _, .parts _ hos ht => by
      refine ht.allPlain_append (by simp [Fields.Distinct, Fields.names])
        (by simp [timingNames, Fields.names]) ?_
      have hall := fun o ho => (hos o ho).allPlain
      simpa [Json.allPlain_string, Json.allPlain_array] using hall
  | _, _, .switch hos ht => by
      refine ht.allPlain_append (by simp [Fields.Distinct, Fields.names])
        (by simp [timingNames, Fields.names]) ?_
      have hall := fun o ho => (hos o ho).allPlain
      simpa [Json.allPlain_string, Json.allPlain_array, allPlain_unfiltered] using hall

/-- All values in the object of a stream are plain. -/
lemma IsStreamObject.allPlain : ∀ {o : Object}, IsStreamObject o → (Json.object o).AllPlain
  | _, .unfiltered name => allPlain_unfiltered name
  | _, .filtered name hf => by
      refine Json.allPlain_object.mpr ⟨by simp [Fields.Distinct, Fields.names], ?_⟩
      simp [Json.allPlain_string, hf.allPlain]

end

end EventQuery
