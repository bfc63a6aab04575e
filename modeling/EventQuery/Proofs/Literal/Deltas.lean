import EventQuery.Proofs.Double.Rounding
import EventQuery.Proofs.Json.Records
import EventQuery.Proofs.Pattern.Grammar
import Mathlib.Tactic.Choose

/-!
Deltas and their text.

A delta is written with the units that are set, in one order, and every amount with its exact
value. Whole amounts are written as integers, so the sign of zero is lost, and reading goes
from integers back to doubles: an integer that came from a double is that double again, up to
the sign of zero. So a delta that is read back is equal to the one that was written and is
written in the same way.

* `Delta.amount?_ofList`: of the amounts given for a unit, the last one counts.
* `Delta.names_encodeUnits`: the units that are written.
* `Delta.exists_readBy?`: a delta that was written is read as an equal one.
* `Delta.encode_congr`: equal deltas are written alike.
* `deltas_read_back`: all of it together.
-/

namespace EventQuery

lemma TimeUnit.mem_all (u : TimeUnit) : u ∈ TimeUnit.all := by cases u <;> decide

namespace Delta

/-! ### Units that are set one after the other -/

/-- The last amount that is given for a unit. -/
def lastAmount? (calls : List (TimeUnit × Double)) (u : TimeUnit) : Option Double :=
  ((calls.filter fun c => c.1 == u).getLast?).map Prod.snd

lemma amount?_set (d : Delta) (u v : TimeUnit) (x : Double) :
    (d.set u x).amount? v = if u = v then some x else d.amount? v := by
  cases u <;> cases v <;> rfl

/-- Of the amounts given for a unit, the last one counts. -/
lemma amount?_ofList (calls : List (TimeUnit × Double)) (u : TimeUnit) :
    (ofList calls).amount? u = lastAmount? calls u := by
  induction calls using List.reverseRecOn with
  | nil => cases u <;> rfl
  | append_singleton calls c ih =>
      have hset : ofList (calls ++ [c]) = (ofList calls).set c.1 c.2 := by
        rw [ofList, List.foldl_append]
        rfl
      rw [hset, amount?_set, ih, lastAmount?, lastAmount?, List.filter_append]
      by_cases hc : c.1 = u
      · rw [if_pos hc, List.filter_cons_of_pos (by simpa using hc), List.filter_nil,
          List.getLast?_concat]
        rfl
      · rw [if_neg hc, List.filter_cons_of_neg (by simpa using hc), List.filter_nil,
          List.append_nil]

/-- A unit has a last amount if it was given one. -/
lemma isSome_lastAmount? (calls : List (TimeUnit × Double)) (u : TimeUnit) :
    (lastAmount? calls u).isSome = calls.any fun c => c.1 == u := by
  rw [Bool.eq_iff_iff, lastAmount?, Option.isSome_map, List.getLast?_isSome, Ne,
    List.filter_eq_nil_iff, List.any_eq_true]
  push Not
  rfl

lemma mem_of_lastAmount? {calls : List (TimeUnit × Double)} {u : TimeUnit} {x : Double}
    (h : lastAmount? calls u = some x) : (u, x) ∈ calls := by
  obtain ⟨c, hc, rfl⟩ := Option.map_eq_some_iff.mp h
  obtain ⟨hmem, hunit⟩ := List.mem_filter.mp (List.mem_of_getLast? hc)
  obtain rfl := eq_of_beq hunit
  exact hmem

/-! ### What is written -/

/-- All amounts that are set are finite. -/
def IsFinite (d : Delta) : Prop := ∀ u x, d.amount? u = some x → ∃ y, x = .finite y

lemma amountNumber_of_some {x : Finite} {n : Int64} (h : x.toInt64? = some n) :
    amountNumber x = .integer n.toInt := by
  rw [amountNumber, h]

lemma amountNumber_of_none {x : Finite} (h : x.toInt64? = none) :
    amountNumber x = .double x := by
  rw [amountNumber, h]

/-- An amount is written with its exact value. -/
lemma value_amountNumber (x : Finite) : (amountNumber x).value = x.value := by
  cases hx : x.toInt64? with
  | none => rw [amountNumber_of_none hx, Number.value]
  | some n => rw [amountNumber_of_some hx, Number.value, Finite.value_eq_toInt64? hx]

lemma exists_encodeAmount (x : Finite) : ∃ v, encodeAmount (.finite x) = .ok v := by
  cases hx : x.toInt64? with
  | none => exact ⟨.double x, by rw [encodeAmount, hx]⟩
  | some n => exact ⟨.integer n.toInt, by rw [encodeAmount, hx]⟩

lemma exists_encodeUnits {d : Delta} (h : d.IsFinite) (us : List TimeUnit) :
    ∃ ms, d.encodeUnits us = .ok ms := by
  induction us with
  | nil => exact ⟨[], rfl⟩
  | cons u us ih =>
      obtain ⟨ms, hms⟩ := ih
      cases hu : d.amount? u with
      | none => exact ⟨ms, by rw [encodeUnits, hu, hms]⟩
      | some x =>
          obtain ⟨y, rfl⟩ := h u x hu
          obtain ⟨v, hv⟩ := exists_encodeAmount y
          exact ⟨(u.name, v) :: ms, by simp [encodeUnits, hu, hv, hms]⟩

/-- The members that are written are those of the units that are set. -/
lemma names_encodeUnits {d : Delta} {us : List TimeUnit} {ms : Object}
    (h : d.encodeUnits us = .ok ms) :
    Fields.names ms = (us.filter fun u => (d.amount? u).isSome).map TimeUnit.name := by
  induction us generalizing ms with
  | nil =>
      cases h
      rfl
  | cons u us ih =>
      cases hu : d.amount? u with
      | none =>
          simp only [encodeUnits, hu] at h
          rw [List.filter_cons_of_neg (by simp [hu]), ih h]
      | some x =>
          simp only [encodeUnits, hu, bind_eq_ok, pure_eq_ok, Except.ok.injEq] at h
          obtain ⟨v, hv, ns, hns, rfl⟩ := h
          rw [List.filter_cons_of_pos (by simp [hu]), List.map_cons, Fields.names_cons, ih hns]

lemma encode_eq_ok {d : Delta} {v : Json} :
    d.encode = .ok v ↔ ∃ ms, d.encodeUnits TimeUnit.all = .ok ms ∧ v = .object ms := by
  simp only [encode, bind_eq_ok, pure_eq_ok, Except.ok.injEq]
  simp only [eq_comm]

lemma exists_encode {d : Delta} (h : d.IsFinite) : ∃ v, d.encode = .ok v := by
  obtain ⟨ms, hms⟩ := exists_encodeUnits h TimeUnit.all
  exact ⟨_, encode_eq_ok.mpr ⟨ms, hms, rfl⟩⟩

lemma isEmpty_iff {d : Delta} : d.isEmpty = true ↔ ∀ u, d.amount? u = none := by
  simp [isEmpty, TimeUnit.mem_all]

/-- A delta is empty exactly if it is written without members. -/
theorem isEmpty_iff_encode {d : Delta} : d.isEmpty = true ↔ d.encode = .ok (.object []) := by
  rw [isEmpty_iff, encode_eq_ok]
  constructor
  · intro h
    have hnone : ∀ us, d.encodeUnits us = .ok [] := by
      intro us
      induction us with
      | nil => rfl
      | cons u us ih => rw [encodeUnits, h u, ih]
    exact ⟨[], hnone _, rfl⟩
  · rintro ⟨ms, hms, hnil⟩ u
    obtain rfl : ms = [] := by simpa using hnil.symm
    have hnames := names_encodeUnits hms
    by_contra hu
    have hmem : u.name ∈ Fields.names ([] : Object) := by
      rw [hnames]
      exact List.mem_map_of_mem (List.mem_filter.mpr
        ⟨u.mem_all, by simpa [Option.isSome_iff_ne_none] using hu⟩)
    cases hmem

/-! ### Equal deltas -/

lemma encodeAmount_congr {x y : Double} (h : x.equal y = true) :
    encodeAmount x = encodeAmount y := by
  rcases x with x | x
  · rcases y with y | y
    · have hxy : x.equal y = true := h
      cases hx : x.toInt64? with
      | none => rw [Finite.eq_of_equal hxy hx]
      | some n => rw [encodeAmount, encodeAmount, ← Finite.toInt64?_congr hxy, hx]
    · cases h
  · -- an infinity is equal to itself only, and not a number to nothing
    cases x with
    | nan => cases h
    | infinity s =>
        rcases y with y | (_ | t)
        · cases h
        · cases h
        · obtain rfl : s = t := eq_of_beq h
          rfl

lemma encodeUnits_congr {d e : Delta}
    (h : ∀ u, equalAmount (e.amount? u) (d.amount? u) = true) (us : List TimeUnit) :
    e.encodeUnits us = d.encodeUnits us := by
  induction us with
  | nil => rfl
  | cons u us ih =>
      have hu := h u
      rw [encodeUnits, encodeUnits, ih]
      generalize e.amount? u = o at hu
      generalize d.amount? u = o' at hu
      cases o with
      | none =>
          cases o' with
          | none => rfl
          | some y => cases hu
      | some x =>
          cases o' with
          | none => cases hu
          | some y => simp only [encodeAmount_congr (show x.equal y = true from hu)]

lemma equal_iff {d e : Delta} :
    e.equal d = true ↔ ∀ u, equalAmount (e.amount? u) (d.amount? u) = true := by
  simp [equal, TimeUnit.mem_all]

/-- Equal deltas are written alike. -/
theorem encode_congr {d e : Delta} (h : e.equal d = true) : e.encode = d.encode := by
  rw [encode, encode, encodeUnits_congr (equal_iff.mp h)]

/-! ### Reading, over any way of reading doubles -/

variable {double? : RawNumber → Option Finite}

lemma ofAmounts?_eq_some {xs : List (Option Double)} {d : Delta} :
    ofAmounts? xs = some d ↔ xs = TimeUnit.all.map d.amount? := by
  constructor
  · intro h
    unfold ofAmounts? at h
    split at h
    · cases h
      rfl
    · cases h
  · rintro rfl
    rfl

/-- A delta is read if each of its units is. -/
lemma readBy?_eq_some {doc : Document} {d : Delta} :
    readBy? double? doc = some d ↔ doc.onlyNames (TimeUnit.all.map TimeUnit.name) = true ∧
      ∃ ms, doc.members? (TimeUnit.all.map TimeUnit.name) = some ms ∧
        ms.map (Document.optional? (readAmountBy? double?))
          = TimeUnit.all.map fun u => some (d.amount? u) := by
  rw [readBy?]
  split
  · rename_i honly
    simp only [honly, true_and, Option.bind_eq_some_iff, mapM_eq_some, ofAmounts?_eq_some,
      ↓existsAndEq, and_true, List.map_map, Function.comp_def]
  · rename_i honly
    simp [honly]

/-! ### Amounts that are read -/

/-- An amount that is read is finite: an integer that is read as one is far below the largest
double. -/
lemma exists_finite_of_readAmountBy? {doc : Document} {x : Double}
    (h : readAmountBy? double? doc = some x) : ∃ y, x = .finite y := by
  cases doc with
  | number n =>
      obtain ⟨v, hv, rfl⟩ := Option.map_eq_some_iff.mp h
      rw [RawNumber.valueBy?] at hv
      split at hv
      · rename_i hinteger
        obtain rfl := Option.some.inj hv
        simp only [RawNumber.isInteger, Bool.and_eq_true, decide_eq_true_eq] at hinteger
        obtain ⟨y, hy, -⟩ := Double.exists_ofInt (n := n.wholeValue) (by omega)
        exact ⟨y, hy⟩
      · obtain ⟨y, -, rfl⟩ := Option.map_eq_some_iff.mp hv
        exact ⟨y, rfl⟩
  | _ => cases h

lemma isFinite_of_readBy? {doc : Document} {d : Delta} (h : readBy? double? doc = some d) :
    d.IsFinite := by
  intro u x hu
  obtain ⟨-, ms, -, hms⟩ := readBy?_eq_some.mp h
  have hmem : some (d.amount? u) ∈ ms.map (Document.optional? (readAmountBy? double?)) := by
    rw [hms]
    exact List.mem_map_of_mem u.mem_all
  obtain ⟨m, -, hm⟩ := List.mem_map.mp hmem
  rw [hu] at hm
  unfold Document.optional? at hm
  split at hm
  · cases hm
  · cases hm
  · obtain ⟨y, hy, hxy⟩ := Option.map_eq_some_iff.mp hm
    obtain rfl := Option.some.inj hxy
    exact exists_finite_of_readAmountBy? hy

/-- What is written for an amount is read as an equal one: the integer of a whole one is rounded
to a double that is equal to it. -/
lemma exists_readAmountBy? {x : Double} {v : Json} (h : encodeAmount x = .ok v)
    (hback : v.IsReadBackBy double?) :
    ∃ y, readAmountBy? double? v.document = some y ∧ y.equal x = true := by
  obtain ⟨x, rfl, rfl⟩ := encodeAmount_eq_ok h
  have hraw : (amountNumber x).raw.valueBy? double? = some (amountNumber x) := by
    have hvalue := Json.valueBy?_document (isNumber_amountNumber x).allPlain hback
    rw [Json.document, Document.valueBy?] at hvalue
    obtain ⟨n, hn, heq⟩ := Option.map_eq_some_iff.mp hvalue
    rwa [Json.number.inj heq] at hn
  rw [Json.document, readAmountBy?, hraw, Option.map_some]
  cases hx : x.toInt64? with
  | none =>
      rw [amountNumber_of_none hx]
      exact ⟨.finite x, rfl, by simp [Double.equal, Finite.equal]⟩
  | some n =>
      rw [amountNumber_of_some hx]
      obtain ⟨hvalue, hlt⟩ := Finite.toInt64?_eq_some_iff.mp hx
      obtain ⟨y, hy, hnear⟩ := Double.exists_ofInt (n := n.toInt) (by omega)
      rw [← hvalue] at hnear
      exact ⟨.finite y, congrArg some hy, Finite.value_eq_iff.mp hnear.value_eq⟩

lemma exists_optional?_amount {o : Option Double} {j : Option Json} (h : Written encodeAmount o j)
    (hback : ∀ v, j = some v → v.IsReadBackBy double?) :
    ∃ o', Document.optional? (readAmountBy? double?) (j.map Json.document) = some o' ∧
      equalAmount o' o = true := by
  rcases h.eq_none_or with ⟨rfl, rfl⟩ | ⟨x, v, rfl, rfl, hx⟩
  · exact ⟨none, rfl, rfl⟩
  · obtain ⟨y, hy, hequal⟩ := exists_readAmountBy? hx (hback v rfl)
    -- a number is not `null`, so it is read as an amount
    obtain ⟨z, -, rfl⟩ := encodeAmount_eq_ok hx
    exact ⟨some y, congrArg (Option.map some) hy, hequal⟩

/-! ### Deltas that are read back -/

/-- The delta with these amounts. -/
def ofAmounts (amount? : TimeUnit → Option Double) : Delta :=
  ⟨amount? .years, amount? .months, amount? .weeks, amount? .days, amount? .hours,
    amount? .minutes, amount? .seconds⟩

lemma amount?_ofAmounts (f : TimeUnit → Option Double) (u : TimeUnit) :
    (ofAmounts f).amount? u = f u := by
  cases u <;> rfl

/-- **A delta that was written** is read as an equal one. -/
theorem exists_readBy? {d : Delta} {v : Json} (h : d.encode = .ok v)
    (hback : v.IsReadBackBy double?) :
    ∃ e, readBy? double? v.document = some e ∧ e.equal d = true := by
  obtain ⟨ms, hms, rfl⟩ := encode_eq_ok.mp h
  obtain ⟨hdistinct, hnames, hlook⟩ := encodeUnits_eq_ok (by decide) hms
  have hamounts : ∀ u : TimeUnit, ∃ o,
      Document.optional? (readAmountBy? double?) ((Fields.find? u.name ms).map Json.document)
        = some o ∧ equalAmount o (d.amount? u) = true := by
    intro u
    refine exists_optional?_amount (hlook u u.mem_all) fun v hv => ?_
    exact Json.isReadBackBy_object.mp hback (u.name, v) (Fields.mem_of_find? hv)
  choose f hread hequal using hamounts
  refine ⟨ofAmounts f, readBy?_eq_some.mpr ⟨Json.onlyNames_document hnames, _,
    Json.members?_document hdistinct _, ?_⟩, equal_iff.mpr fun u => ?_⟩
  · rw [List.map_map, List.map_map]
    exact List.map_congr_left fun u _ => (hread u).trans (by rw [amount?_ofAmounts])
  · rw [amount?_ofAmounts]
    exact hequal u

/-- A delta is read back from what is written for it: whatever the indent, its text is read as
an equal delta that is written in the same way, if the doubles in it are read back. -/
def IsReadBack (d : Delta) (v : Json) : Prop :=
  ∀ double?, v.IsReadBackBy double? → ∀ indent, ∃ e, parseBy? double? (v.text indent) = some e ∧
    e.equal d = true ∧ e.encode = .ok v

lemma isReadBack_of_encode {d : Delta} {v : Json} (h : d.encode = .ok v) : d.IsReadBack v := by
  intro double? hback indent
  obtain ⟨e, he, hequal⟩ := exists_readBy? h hback
  refine ⟨e, ?_, hequal, (encode_congr hequal).trans h⟩
  rw [parseBy?, Json.read?_text, Option.bind_some, he]

/-- Finite amounts stay finite when they are set. -/
lemma isFinite_ofList {calls : List (TimeUnit × Double)} (h : ∀ c ∈ calls, ∃ x, c.2 = .finite x) :
    (ofList calls).IsFinite := by
  intro u x hu
  rw [amount?_ofList] at hu
  exact h _ (mem_of_lastAmount? hu)

/-- A unit that is set has a member with its exact amount. -/
lemma exists_find?_encodeUnits {d : Delta} {ms : Object} (hms : d.encodeUnits TimeUnit.all = .ok ms)
    {u : TimeUnit} {x : Finite} (hu : d.amount? u = some (.finite x)) :
    ∃ n, Fields.find? u.name ms = some (.number n) ∧ n.value = x.value := by
  obtain ⟨-, -, hlook⟩ := encodeUnits_eq_ok (by decide) hms
  have hwritten := hlook u u.mem_all
  rw [hu] at hwritten
  rcases hwritten.eq_none_or with ⟨h, -⟩ | ⟨y, v, hy, hv, hencode⟩
  · cases h
  · obtain rfl := Option.some.inj hy
    obtain ⟨z, hz, rfl⟩ := encodeAmount_eq_ok hencode
    cases hz
    exact ⟨_, hv, value_amountNumber x⟩

end Delta

/-- **Deltas are read back.** Units that are set one after the other to finite amounts are
written as exactly the units that were set, from years to seconds, each with the exact value
of its last amount, and the delta is read back from that. A delta that is read from a text, in
whatever form, can be written and is read back from what is written for it. A delta is empty
exactly if it is written without members. All this is for every way of reading doubles, of
which the reader of texts has one. -/
theorem deltas_read_back :
    (∀ calls : List (TimeUnit × Double), (∀ c ∈ calls, ∃ x, c.2 = .finite x) →
      ∃ ms, (Delta.ofList calls).encode = .ok (.object ms) ∧
        Fields.names ms
          = (TimeUnit.all.filter fun u => calls.any fun c => c.1 == u).map TimeUnit.name ∧
        (∀ u x, Delta.lastAmount? calls u = some (.finite x) →
          ∃ n, Fields.find? u.name ms = some (.number n) ∧ n.value = x.value) ∧
        (Delta.ofList calls).IsReadBack (.object ms)) ∧
    (∀ double? text d, Delta.parseBy? double? text = some d →
      ∃ v, d.encode = .ok v ∧ d.IsReadBack v) ∧
    (∀ d : Delta, d.isEmpty = true ↔ d.encode = .ok (.object [])) ∧
    ∀ text, Delta.parseBy? RawNumber.scaled? text = Delta.parse? text := by
  refine ⟨fun calls hcalls => ?_, fun double? text d h => ?_, fun d => Delta.isEmpty_iff_encode,
    fun _ => rfl⟩
  · obtain ⟨v, hv⟩ := Delta.exists_encode (Delta.isFinite_ofList hcalls)
    obtain ⟨ms, hms, rfl⟩ := Delta.encode_eq_ok.mp hv
    refine ⟨ms, hv, ?_, fun u x hu => ?_, Delta.isReadBack_of_encode hv⟩
    · rw [Delta.names_encodeUnits hms]
      simp only [Delta.amount?_ofList, Delta.isSome_lastAmount?]
    · rw [← Delta.amount?_ofList] at hu
      exact Delta.exists_find?_encodeUnits hms hu
  · obtain ⟨doc, -, hdoc⟩ := Option.bind_eq_some_iff.mp h
    obtain ⟨v, hv⟩ := Delta.exists_encode (Delta.isFinite_of_readBy? hdoc)
    exact ⟨v, hv, Delta.isReadBack_of_encode hv⟩

/-- The double one and a half. -/
def Finite.threeHalves : Finite :=
  ⟨false, 6755399441055744, -52, by decide, by decide, by decide, by decide⟩

/-- Seconds before years, and years twice, the second time to a zero with a sign. -/
def oddCalls : List (TimeUnit × Double) :=
  [(.seconds, .finite .threeHalves), (.years, .finite .threeHalves), (.years, .finite (.zero true))]

theorem oddCalls_read_back :
    ∃ ms, (Delta.ofList oddCalls).encode = .ok (.object ms) ∧
      Fields.names ms = ["years", "seconds"] ∧
      (∃ n, Fields.find? "years" ms = some (.number n) ∧ n.value = 0) ∧
      (∃ e, Delta.parse? ((Json.object ms).text 2) = some e ∧
        e.equal (Delta.ofList oddCalls) = true ∧ e.encode = .ok (.object ms)) ∧
      ∃ d v, Delta.parse? "\x7b\"hours\":null,\"days\":3\x7d" = some d ∧ d.encode = .ok v ∧
        d.IsReadBack v := by
  obtain ⟨hcalls, htexts, -, hscaled⟩ := deltas_read_back
  have hfinite : ∀ c ∈ oddCalls, ∃ x, c.2 = .finite x := by simp [oddCalls]
  obtain ⟨ms, hms, hnames, hlast, hback⟩ := hcalls oddCalls hfinite
  have hzero : (Finite.zero true).toInt64? = some 0 := Finite.toInt64?_of_isZero rfl
  have hfraction : Finite.threeHalves.toInt64? = none := rfl
  have hwritten : (Delta.ofList oddCalls).encode
      = .ok (.object [("years", .integer 0), ("seconds", .double .threeHalves)]) := by
    simp [oddCalls, Delta.ofList, Delta.set, Delta.empty, Delta.encode, Delta.encodeUnits,
      TimeUnit.all, TimeUnit.name, Delta.amount?, Delta.encodeAmount, hzero, hfraction]
  obtain rfl : ms = [("years", .integer 0), ("seconds", .double .threeHalves)] := by
    simpa [hwritten] using hms.symm
  obtain ⟨n, hn, hvalue⟩ := hlast .years (.zero true) rfl
  have hdoubles : Json.IsReadBackBy RawNumber.scaled?
      (.object [("years", .integer 0), ("seconds", .double .threeHalves)]) := by
    intro x hx
    obtain rfl : x = .threeHalves := by
      simpa [Json.subvalues, Json.memberSubvalues, Json.double, Json.integer] using hx
    decide +kernel
  have hread : ∃ d, Delta.parse? "\x7b\"hours\":null,\"days\":3\x7d" = some d :=
    Option.isSome_iff_exists.mp (by decide +kernel)
  obtain ⟨d, hd⟩ := hread
  obtain ⟨v, hv, hdback⟩ := htexts RawNumber.scaled? _ d ((hscaled _).trans hd)
  refine ⟨_, hms, hnames, ⟨n, hn, ?_⟩, ?_, d, v, hd, hv, hdback⟩
  · rw [hvalue]
    simp [Finite.value, Finite.zero]
  · rw [← hscaled]
    exact hback RawNumber.scaled? hdoubles 2

end EventQuery
