import EventQuery.Pattern
import EventQuery.Proofs.Double.Integral
import EventQuery.Proofs.Json.Equality
import EventQuery.Proofs.Outcome

/-!
Literals and deltas are equal if they are written equal.

A literal is written with its type, and under the policy that tags every number
as a double an integer still differs from a double in the form of its number. A
delta is written unit by unit, a whole amount as an integer whatever the sign of
its zero.

* `Scalar.equal_of_encode`, `Delta.equal_of_encode`: the values that are written
  are equal as JSON exactly if the literals or deltas are equal.
* `Written`: an optional part and the member that it is written as.
-/

namespace EventQuery

/-- An optional part is written as a member if it is there, and leaves none if it
is not. -/
def Written {α : Type} (encode : α → Except QueryError Json) : Option α → Option Json → Prop
  | none, none => True
  | some a, some v => encode a = .ok v
  | _, _ => False

lemma Written.eq_none_or {α : Type} {encode : α → Except QueryError Json} {o : Option α}
    {j : Option Json} (h : Written encode o j) :
    (o = none ∧ j = none) ∨ ∃ a v, o = some a ∧ j = some v ∧ encode a = .ok v := by
  cases o with
  | none =>
      cases j with
      | none => exact Or.inl ⟨rfl, rfl⟩
      | some v => exact h.elim
  | some a =>
      cases j with
      | none => exact h.elim
      | some v => exact Or.inr ⟨a, v, rfl, rfl, h⟩

/-! ### Literals -/

lemma Operator.token_injective {a b : Operator} (h : a.token = b.token) : a = b := by
  cases a <;> cases b <;> first | rfl | (exfalso; revert h; decide)

lemma Json.equal_strings (as bs : List String) :
    (Json.strings as).equal (.strings bs) = (as == bs) := by
  have hitems : Json.equalItems (as.map .string) (bs.map .string) = (as == bs) := by
    induction as generalizing bs with
    | nil => cases bs <;> rfl
    | cons a as ih =>
        cases bs with
        | nil => rfl
        | cons b bs =>
            rw [List.map_cons, List.map_cons, Json.equalItems, ih, Json.equal]
            rfl
  rw [Json.strings, Json.strings, Json.equal, hitems]

/-- Two typed values are equal if their types and their values are. -/
lemma Json.equal_typed (s t : String) (a b : Json) :
    (object [("type", .string s), ("val", a)]).equal (.object [("type", .string t), ("val", b)])
      = (s == t && a.equal b) := by
  simp [equal, equalMembers, Fields.find?]

/-- What is written for literals tells them apart as far as equality does. -/
theorem Scalar.equal_of_encode {s t : Scalar} {v w : Json} (hs : s.encode .double = .ok v)
    (ht : t.encode .double = .ok w) : v.equal w = s.equal t := by
  simp only [Scalar.encode, bind_eq_ok, pure_eq_ok, Except.ok.injEq] at hs ht
  obtain ⟨a, ha, rfl⟩ := hs
  obtain ⟨b, hb, rfl⟩ := ht
  rw [Json.equal_typed]
  rcases s with m | (x | x) | p | q
  all_goals rcases t with n | (y | y) | p' | q'
  all_goals cases ha
  all_goals cases hb
  all_goals
    simp [Scalar.equal, Scalar.tag, Json.equal, Json.integer, Json.double, Number.equal,
      Double.equal, Int64.toInt_inj]

/-! ### Deltas -/

/-- The number that a finite amount is written as: an integer if it is one. -/
def Delta.amountNumber (x : Finite) : Number :=
  match x.toInt64? with
  | some n => .integer n.toInt
  | none => .double x

/-- No two amounts that differ are written as one number. -/
lemma Delta.amountNumber_equal (x y : Finite) :
    (amountNumber x).equal (amountNumber y) = x.equal y := by
  cases hxy : x.equal y with
  | true =>
      rw [amountNumber, amountNumber, Finite.toInt64?_congr hxy]
      cases y.toInt64? <;> simp [Number.equal, hxy]
  | false =>
      rw [amountNumber, amountNumber]
      cases hm : x.toInt64? <;> cases hn : y.toInt64?
      · exact hxy
      · rfl
      · rfl
      · rename_i m n
        have hmn : m ≠ n := by
          rintro rfl
          simp [Finite.equal_of_toInt64? hm hn] at hxy
        simpa [Number.equal, Int64.toInt_inj] using hmn

lemma Delta.encodeAmount_eq_ok {x : Double} {v : Json} (h : encodeAmount x = .ok v) :
    ∃ y, x = .finite y ∧ v = .number (amountNumber y) := by
  rcases x with y | y
  · refine ⟨y, rfl, ?_⟩
    cases hy : y.toInt64? with
    | some n =>
        simp only [encodeAmount, hy, Except.ok.injEq] at h
        simp only [amountNumber, hy, ← h, Json.integer]
    | none =>
        simp only [encodeAmount, hy, Except.ok.injEq] at h
        simp only [amountNumber, hy, ← h, Json.double]
  · cases h

/-- What is written for amounts tells them apart as far as equality does. -/
lemma Delta.equal_of_encodeAmount {x y : Double} {v w : Json} (hx : encodeAmount x = .ok v)
    (hy : encodeAmount y = .ok w) : v.equal w = x.equal y := by
  obtain ⟨x, rfl, rfl⟩ := encodeAmount_eq_ok hx
  obtain ⟨y, rfl, rfl⟩ := encodeAmount_eq_ok hy
  exact amountNumber_equal x y

lemma TimeUnit.name_injective {u v : TimeUnit} (h : u.name = v.name) : u = v := by
  cases u <;> cases v <;> first | rfl | (exfalso; revert h; decide)

/-- The members of a delta: those of the units asked for that are set. -/
lemma Delta.encodeUnits_eq_ok {d : Delta} {us : List TimeUnit} {ms : Object} (hus : us.Nodup)
    (h : d.encodeUnits us = .ok ms) :
    Fields.Distinct ms ∧ Fields.names ms ⊆ us.map TimeUnit.name ∧
      ∀ u ∈ us, Written encodeAmount (d.amount? u) (Fields.find? u.name ms) := by
  induction us generalizing ms with
  | nil =>
      cases h
      simp [Fields.Distinct, Fields.names]
  | cons u us ih =>
      obtain ⟨hu, hus'⟩ := List.nodup_cons.mp hus
      have hname : u.name ∉ us.map TimeUnit.name := by
        intro hmem
        obtain ⟨v, hv, hvu⟩ := List.mem_map.mp hmem
        exact hu (TimeUnit.name_injective hvu ▸ hv)
      rw [encodeUnits] at h
      split at h
      · rename_i hamount
        obtain ⟨hdist, hnames, hlook⟩ := ih hus' h
        refine ⟨hdist, fun key hkey => by simp [hnames hkey], ?_⟩
        rw [List.forall_mem_cons, hamount,
          Fields.find?_eq_none_iff.mpr fun hkey => hname (hnames hkey)]
        exact ⟨trivial, hlook⟩
      · rename_i x hamount
        simp only [bind_eq_ok, pure_eq_ok, Except.ok.injEq] at h
        obtain ⟨v, hv, ns, hns, rfl⟩ := h
        obtain ⟨hdist, hnames, hlook⟩ := ih hus' hns
        have hfresh : u.name ∉ Fields.names ns := fun hkey => hname (hnames hkey)
        refine ⟨List.nodup_cons.mpr ⟨hfresh, hdist⟩, ?_, ?_⟩
        · rw [Fields.names_cons, List.map_cons]
          exact List.cons_subset_cons _ hnames
        · rw [List.forall_mem_cons]
          refine ⟨by rw [hamount, Fields.find?, if_pos rfl]; exact hv, fun w hw => ?_⟩
          have hne : u.name ≠ w.name := by
            intro h
            exact hu (TimeUnit.name_injective h ▸ hw)
          rw [Fields.find?, if_neg hne]
          exact hlook w hw

/-- Two optional amounts are equal if they are written as equal members. -/
lemma Delta.equalOption_of_amounts {o o' : Option Double} {j j' : Option Json}
    (h : Written encodeAmount o j) (h' : Written encodeAmount o' j') :
    Json.equalOption j j' = equalAmount o o' := by
  rcases h.eq_none_or with ⟨rfl, rfl⟩ | ⟨x, v, rfl, rfl, hx⟩
  · rcases h'.eq_none_or with ⟨rfl, rfl⟩ | ⟨y, w, rfl, rfl, hy⟩ <;> rfl
  · rcases h'.eq_none_or with ⟨rfl, rfl⟩ | ⟨y, w, rfl, rfl, hy⟩
    · rfl
    · exact equal_of_encodeAmount hx hy

/-- What is written for deltas tells them apart as far as equality does. -/
theorem Delta.equal_of_encode {d e : Delta} {v w : Json} (hd : d.encode = .ok v)
    (he : e.encode = .ok w) : v.equal w = d.equal e := by
  simp only [Delta.encode, bind_eq_ok, pure_eq_ok, Except.ok.injEq] at hd he
  obtain ⟨ms, hms, rfl⟩ := hd
  obtain ⟨ns, hns, rfl⟩ := he
  obtain ⟨hmdist, hmnames, hmlook⟩ := encodeUnits_eq_ok (by decide) hms
  obtain ⟨hndist, hnnames, hnlook⟩ := encodeUnits_eq_ok (by decide) hns
  rw [Bool.eq_iff_iff, Json.equal_object_iff hmdist hndist, Delta.equal, List.all_eq_true]
  constructor
  · intro h u hu
    rw [← equalOption_of_amounts (hmlook u hu) (hnlook u hu)]
    exact h u.name
  · intro h key
    by_cases hkey : key ∈ TimeUnit.all.map TimeUnit.name
    · obtain ⟨u, hu, rfl⟩ := List.mem_map.mp hkey
      rw [equalOption_of_amounts (hmlook u hu) (hnlook u hu)]
      exact h u hu
    · rw [Fields.find?_eq_none_iff.mpr fun h => hkey (hmnames h),
        Fields.find?_eq_none_iff.mpr fun h => hkey (hnnames h)]
      rfl

/-- Two optional deltas are equal if they are written as equal members. -/
lemma Delta.equalOption_of_written {o o' : Option Delta} {j j' : Option Json}
    (h : Written encode o j) (h' : Written encode o' j') :
    Json.equalOption j j' = equalOption o o' := by
  rcases h.eq_none_or with ⟨rfl, rfl⟩ | ⟨d, v, rfl, rfl, hd⟩
  · rcases h'.eq_none_or with ⟨rfl, rfl⟩ | ⟨e, w, rfl, rfl, he⟩ <;> rfl
  · rcases h'.eq_none_or with ⟨rfl, rfl⟩ | ⟨e, w, rfl, rfl, he⟩
    · rfl
    · exact equal_of_encode hd he

end EventQuery
