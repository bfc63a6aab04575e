import EventQuery.Json.Document
import EventQuery.Proofs.Fields
import EventQuery.Proofs.Json.Subvalues

/-!
Documents and their tokens.

* `Document.ind`: a property of all documents is shown from parts to wholes.
* `Document.tokens`: the tokens of a document; `Document.ofTokens?_tokens`: they
  are put together to the document again.
* `BuildState.tokens`: the tokens that lead to a state; `Document.ofTokens?_eq_some_iff`: only
  the tokens of a document are put together to it.
* `Document.valueBy?`: the reader of values without a limit on nesting, for any way
  of reading doubles; `Document.value?_eq_some_iff`: what the limit adds to it.
* `Json.parse?_holds`: in a value that was read names are distinct and integers fit 64 bits.
-/

namespace EventQuery

namespace Document

/-- A property of all documents is shown from parts to wholes. -/
@[elab_as_elim]
theorem ind {P : Document → Prop} (null : P .null) (bool : ∀ b, P (.bool b))
    (number : ∀ n, P (.number n)) (string : ∀ s, P (.string s))
    (array : ∀ ds : List Document, (∀ d ∈ ds, P d) → P (.array ds))
    (object : ∀ ms : List (RawString × Document), (∀ m ∈ ms, P m.2) → P (.object ms))
    (d : Document) : P d :=
  @Document.rec P (fun ds => ∀ d ∈ ds, P d) (fun ms => ∀ m ∈ ms, P m.2) (fun m => P m.2)
    null bool number string array object
    (List.forall_mem_nil P)
    (fun _ _ ihd ihds => List.forall_mem_cons.mpr ⟨ihd, ihds⟩)
    (List.forall_mem_nil fun m : RawString × Document => P m.2)
    (fun _ _ ihm ihms => List.forall_mem_cons.mpr ⟨ihm, ihms⟩)
    (fun _ _ ih => ih)
    d

/-! ### The tokens of a document -/

mutual

/-- The tokens of a document, in order. -/
def tokens : Document → List Token
  | null => [.null]
  | bool b => [.bool b]
  | number n => [.number n]
  | string s => [.string s]
  | array [] => [.openArray, .closeArray]
  | array (d :: rest) => .openArray :: (d.tokens ++ itemTokens rest)
  | object [] => [.openObject, .closeObject]
  | object ((key, d) :: rest) =>
    .openObject :: .string key :: .colon :: (d.tokens ++ memberTokens rest)

/-- The tokens of the rest of an array after an item. -/
def itemTokens : List Document → List Token
  | [] => [.closeArray]
  | d :: rest => .comma :: (d.tokens ++ itemTokens rest)

/-- The tokens of the rest of an object after a member. -/
def memberTokens : List (RawString × Document) → List Token
  | [] => [.closeObject]
  | (key, d) :: rest => .comma :: .string key :: .colon :: (d.tokens ++ memberTokens rest)

end

/-- The first token of a document closes no array. -/
lemma exists_tokens_eq_cons (d : Document) : ∃ t ts, d.tokens = t :: ts ∧ t ≠ .closeArray := by
  cases d with
  | null => exact ⟨_, _, rfl, by decide⟩
  | bool b => exact ⟨_, _, rfl, by simp⟩
  | number n => exact ⟨_, _, rfl, by simp⟩
  | string s => exact ⟨_, _, rfl, by simp⟩
  | array ds => cases ds <;> exact ⟨_, _, by rw [tokens], by decide⟩
  | object ms => cases ms <;> exact ⟨_, _, by rw [tokens], by decide⟩

/-- The tokens of a document lead to the document, whatever has been opened before
and whatever follows. -/
def IsBuilt (d : Document) : Prop := ∀ outer rest,
  (d.tokens ++ rest).foldlM BuildState.step (.value outer)
    = rest.foldlM BuildState.step (.after outer d)

/-- So do they at the start of an array. -/
lemma IsBuilt.firstItem {d : Document} (h : d.IsBuilt) (outer : List OpenFrame)
    (rest : List Token) : (d.tokens ++ rest).foldlM BuildState.step (.firstItem outer)
      = rest.foldlM BuildState.step (.after (.array [] :: outer) d) := by
  obtain ⟨t, ts, ht, hne⟩ := d.exists_tokens_eq_cons
  -- only the end of the array is treated differently there
  have hstep : BuildState.step (.firstItem outer) t
      = BuildState.step (.value (.array [] :: outer)) t := by
    cases t <;> first | rfl | exact absurd rfl hne
  rw [← h, ht, List.cons_append, List.foldlM_cons, List.foldlM_cons, hstep]

/-- The rest of an array is added to what it holds so far. -/
lemma foldlM_itemTokens {ds : List Document} (h : ∀ d ∈ ds, d.IsBuilt) (outer : List OpenFrame)
    (items : List Document) (d : Document) (rest : List Token) :
    (itemTokens ds ++ rest).foldlM BuildState.step (.after (.array items :: outer) d)
      = rest.foldlM BuildState.step (.after outer (.array ((d :: items).reverse ++ ds))) := by
  induction ds generalizing items d with
  | nil =>
      rw [List.append_nil]
      rfl
  | cons e ds ih =>
      obtain ⟨he, hds⟩ := List.forall_mem_cons.mp h
      calc (itemTokens (e :: ds) ++ rest).foldlM BuildState.step (.after (.array items :: outer) d)
          = (e.tokens ++ (itemTokens ds ++ rest)).foldlM BuildState.step
              (.value (.array (d :: items) :: outer)) := by
            rw [itemTokens, List.cons_append, List.append_assoc]
            rfl
        _ = rest.foldlM BuildState.step
              (.after outer (.array ((e :: d :: items).reverse ++ ds))) := by
            rw [he, ih hds]
        _ = _ := by simp only [List.reverse_cons, List.append_assoc, List.cons_append, List.nil_append]

/-- The rest of an object is added to what it holds so far. -/
lemma foldlM_memberTokens {ms : List (RawString × Document)} (h : ∀ m ∈ ms, m.2.IsBuilt)
    (outer : List OpenFrame) (members : List (RawString × Document)) (key : RawString)
    (d : Document) (rest : List Token) :
    (memberTokens ms ++ rest).foldlM BuildState.step (.after (.object members key :: outer) d)
      = rest.foldlM BuildState.step
        (.after outer (.object (((key, d) :: members).reverse ++ ms))) := by
  induction ms generalizing members key d with
  | nil =>
      rw [List.append_nil]
      rfl
  | cons m ms ih =>
      obtain ⟨k, e⟩ := m
      obtain ⟨he, hms⟩ := List.forall_mem_cons.mp h
      calc (memberTokens ((k, e) :: ms) ++ rest).foldlM BuildState.step
            (.after (.object members key :: outer) d)
          = (e.tokens ++ (memberTokens ms ++ rest)).foldlM BuildState.step
              (.value (.object ((key, d) :: members) k :: outer)) := by
            rw [memberTokens, List.cons_append, List.cons_append, List.cons_append,
              List.append_assoc]
            rfl
        _ = rest.foldlM BuildState.step
              (.after outer (.object (((k, e) :: (key, d) :: members).reverse ++ ms))) := by
            rw [he, ih hms]
        _ = _ := by simp only [List.reverse_cons, List.append_assoc, List.cons_append, List.nil_append]

lemma isBuilt (d : Document) : d.IsBuilt := by
  induction d using ind with
  | null => exact fun _ _ => rfl
  | bool b => exact fun _ _ => rfl
  | number n => exact fun _ _ => rfl
  | string s => exact fun _ _ => rfl
  | array ds ih =>
      intro outer rest
      cases ds with
      | nil => rfl
      | cons d ds =>
          obtain ⟨hd, hds⟩ := List.forall_mem_cons.mp ih
          calc ((array (d :: ds)).tokens ++ rest).foldlM BuildState.step (.value outer)
              = (d.tokens ++ (itemTokens ds ++ rest)).foldlM BuildState.step
                  (.firstItem outer) := by
                rw [tokens, List.cons_append, List.append_assoc]
                rfl
            _ = rest.foldlM BuildState.step (.after outer (.array (d :: ds))) := by
                rw [hd.firstItem, foldlM_itemTokens hds]
                rfl
  | object ms ih =>
      intro outer rest
      cases ms with
      | nil => rfl
      | cons m ms =>
          obtain ⟨k, d⟩ := m
          obtain ⟨hd, hms⟩ := List.forall_mem_cons.mp ih
          calc ((object ((k, d) :: ms)).tokens ++ rest).foldlM BuildState.step (.value outer)
              = (d.tokens ++ (memberTokens ms ++ rest)).foldlM BuildState.step
                  (.value (.object [] k :: outer)) := by
                rw [tokens, List.cons_append, List.cons_append, List.cons_append,
                  List.append_assoc]
                rfl
            _ = rest.foldlM BuildState.step (.after outer (.object ((k, d) :: ms))) := by
                rw [hd, foldlM_memberTokens hms]
                rfl

/-- **The tokens of a document** are put together to the document again. -/
theorem ofTokens?_tokens (d : Document) : ofTokens? d.tokens = some d := by
  have h := d.isBuilt [] []
  rw [List.append_nil] at h
  rw [ofTokens?, h]
  rfl

/-! ### Tokens that are put together -/

/-- The tokens of items with a comma after each. -/
def listedItems (ds : List Document) : List Token := ds.flatMap fun d => d.tokens ++ [.comma]

/-- The tokens of members with a comma after each. -/
def listedMembers (ms : List (RawString × Document)) : List Token :=
  ms.flatMap fun m => .string m.1 :: .colon :: (m.2.tokens ++ [.comma])

lemma tokens_append_itemTokens (ds : List Document) (d e : Document) :
    e.tokens ++ itemTokens (ds ++ [d]) = listedItems (e :: ds) ++ (d.tokens ++ [.closeArray]) := by
  induction ds generalizing e with
  | nil => simp [listedItems, itemTokens]
  | cons e' ds ih =>
      rw [List.cons_append, itemTokens, ih]
      simp [listedItems]

lemma tokens_append_memberTokens (ms : List (RawString × Document)) (k : RawString) (d : Document)
    (l : RawString) (e : Document) :
    .string l :: .colon :: (e.tokens ++ memberTokens (ms ++ [(k, d)]))
      = listedMembers ((l, e) :: ms) ++ .string k :: .colon :: (d.tokens ++ [.closeObject]) := by
  induction ms generalizing l e with
  | nil => simp [listedMembers, memberTokens]
  | cons m ms ih =>
      obtain ⟨l', e'⟩ := m
      rw [List.cons_append, memberTokens, ih]
      simp [listedMembers]

/-- The tokens of an array up to its last item. -/
lemma tokens_array_concat (ds : List Document) (d : Document) : (array (ds ++ [d])).tokens
    = .openArray :: (listedItems ds ++ (d.tokens ++ [.closeArray])) := by
  cases ds with
  | nil => simp [tokens, itemTokens, listedItems]
  | cons e ds => rw [List.cons_append, tokens, tokens_append_itemTokens]

/-- The tokens of an object up to its last member. -/
lemma tokens_object_concat (ms : List (RawString × Document)) (k : RawString) (d : Document) :
    (object (ms ++ [(k, d)])).tokens = .openObject ::
      (listedMembers ms ++ .string k :: .colon :: (d.tokens ++ [.closeObject])) := by
  cases ms with
  | nil => simp [tokens, memberTokens, listedMembers]
  | cons m ms =>
      obtain ⟨l, e⟩ := m
      rw [List.cons_append, tokens, tokens_append_memberTokens]

end Document

namespace BuildState

open Document

/-- The tokens of what has been opened and not closed. -/
def openTokens : List OpenFrame → List Token
  | [] => []
  | .array items :: outer => openTokens outer ++ .openArray :: listedItems items.reverse
  | .object members k :: outer =>
    openTokens outer ++ .openObject :: (listedMembers members.reverse ++ [.string k, .colon])

/-- The tokens that lead to a state. -/
def tokens : BuildState → List Token
  | value outer => openTokens outer
  | firstItem outer => openTokens outer ++ [.openArray]
  | firstKey outer => openTokens outer ++ [.openObject]
  | key outer members => openTokens outer ++ .openObject :: listedMembers members.reverse
  | colon outer members k =>
    openTokens outer ++ .openObject :: (listedMembers members.reverse ++ [.string k])
  | after outer d => openTokens outer ++ d.tokens

lemma tokens_startValue {outer : List OpenFrame} {t : Token} {s : BuildState}
    (h : startValue outer t = some s) : s.tokens = openTokens outer ++ [t] := by
  cases t <;> cases h <;> rfl

/-- One more token is added to those that have led to a state. -/
lemma tokens_step {s s' : BuildState} {t : Token} (h : s.step t = some s') :
    s'.tokens = s.tokens ++ [t] := by
  cases s with
  | value outer => exact tokens_startValue h
  | firstItem outer =>
      by_cases ht : t = .closeArray
      · subst ht
        cases h
        simp [tokens, Document.tokens]
      · -- anything else starts the first item
        have hstart : startValue (.array [] :: outer) t = some s' := by
          cases t <;> first | exact h | exact absurd rfl ht
        rw [tokens_startValue hstart]
        simp [openTokens, tokens, listedItems]
  | firstKey outer => cases t <;> cases h <;> simp [tokens, Document.tokens, listedMembers]
  | key outer members =>
      cases t <;> cases h
      simp [tokens]
  | colon outer members k =>
      cases t <;> cases h
      simp [tokens, openTokens]
  | after outer d =>
      rcases outer with _ | ⟨items | ⟨members, k⟩, outer⟩
      · cases h
      · cases t <;> cases h
        · simp [tokens, openTokens, tokens_array_concat]
        · simp [tokens, openTokens, listedItems]
      · cases t <;> cases h
        · simp [tokens, openTokens, tokens_object_concat]
        · simp [tokens, openTokens, listedMembers]

lemma tokens_foldlM {ts : List Token} {s s' : BuildState} (h : ts.foldlM step s = some s') :
    s'.tokens = s.tokens ++ ts := by
  induction ts generalizing s with
  | nil =>
      cases h
      rw [List.append_nil]
  | cons t ts ih =>
      obtain ⟨next, hnext, hrest⟩ := Option.bind_eq_some_iff.mp h
      rw [ih hrest, tokens_step hnext, List.append_assoc, List.singleton_append]

end BuildState

namespace Document

/-- **Tokens are put together** to the document that they are the tokens of, and to no other. -/
theorem ofTokens?_eq_some_iff {ts : List Token} {d : Document} :
    ofTokens? ts = some d ↔ d.tokens = ts := by
  constructor
  · intro h
    obtain ⟨s, hs, hfinish⟩ := Option.bind_eq_some_iff.mp h
    have htokens := BuildState.tokens_foldlM hs
    rcases s with _ | _ | _ | _ | _ | ⟨_ | _, e⟩ <;> cases hfinish
    exact htokens
  · rintro rfl
    exact d.ofTokens?_tokens

/-! ### Values without a limit on nesting -/

mutual

/-- The value of a document, however deeply it is nested. -/
def valueBy? (double? : RawNumber → Option Finite) : Document → Option Json
  | null => some .null
  | bool b => some (.bool b)
  | number n => (n.valueBy? double?).map .number
  | string s => s.text?.map .string
  | array items => (itemValuesBy? double? items).map .array
  | object members => (memberValuesBy? double? members).map fun ms => .object (Fields.ofList ms)

/-- The values of the items of an array. -/
def itemValuesBy? (double? : RawNumber → Option Finite) : List Document → Option (List Json)
  | [] => some []
  | d :: rest => do
    let v ← d.valueBy? double?
    let vs ← itemValuesBy? double? rest
    return v :: vs

/-- The members of an object, in order and with repetitions. -/
def memberValuesBy? (double? : RawNumber → Option Finite) :
    List (RawString × Document) → Option (List (String × Json))
  | [] => some []
  | (key, d) :: rest => do
    let k ← key.text?
    let v ← d.valueBy? double?
    let ms ← memberValuesBy? double? rest
    return (k, v) :: ms

end

mutual

/-- How many arrays and objects are nested in a document. -/
def nesting : Document → Nat
  | array items => itemNesting items + 1
  | object members => memberNesting members + 1
  | _ => 0

/-- The nesting in the items of an array. -/
def itemNesting : List Document → Nat
  | [] => 0
  | d :: rest => max d.nesting (itemNesting rest)

/-- The nesting in the members of an object. -/
def memberNesting : List (RawString × Document) → Nat
  | [] => 0
  | (_, d) :: rest => max d.nesting (memberNesting rest)

end

/-- With levels for all that is nested, a document is read as without a limit. -/
theorem value?_eq_valueBy? (d : Document) : ∀ levels, d.nesting ≤ levels →
    d.value? levels = d.valueBy? RawNumber.scaled? := by
  induction d using ind with
  | null => exact fun _ _ => by rw [value?, valueBy?]
  | bool b => exact fun _ _ => by rw [value?, valueBy?]
  | number n => exact fun _ _ => by rw [value?, valueBy?]; rfl
  | string s => exact fun _ _ => by rw [value?, valueBy?]
  | array ds ih =>
      intro levels h
      rw [nesting] at h
      obtain ⟨n, rfl⟩ : ∃ n, levels = n + 1 := ⟨levels - 1, by omega⟩
      have hitems : itemValues? n ds = itemValuesBy? RawNumber.scaled? ds := by
        replace h : itemNesting ds ≤ n := by omega
        induction ds with
        | nil => rw [itemValues?, itemValuesBy?]
        | cons d ds ihds =>
            obtain ⟨hd, hds⟩ := List.forall_mem_cons.mp ih
            rw [itemNesting] at h
            rw [itemValues?, itemValuesBy?, hd n (by omega), ihds hds (by omega)]
      rw [value?, valueBy?, hitems]
  | object ms ih =>
      intro levels h
      rw [nesting] at h
      obtain ⟨n, rfl⟩ : ∃ n, levels = n + 1 := ⟨levels - 1, by omega⟩
      have hmembers : memberValues? n ms = memberValuesBy? RawNumber.scaled? ms := by
        replace h : memberNesting ms ≤ n := by omega
        induction ms with
        | nil => rw [memberValues?, memberValuesBy?]
        | cons m ms ihms =>
            obtain ⟨key, d⟩ := m
            obtain ⟨hd, hms⟩ := List.forall_mem_cons.mp ih
            rw [memberNesting] at h
            have hd : d.value? n = _ := hd n (show d.nesting ≤ n by omega)
            rw [memberValues?, memberValuesBy?, hd, ihms hms (by omega)]
      rw [value?, valueBy?, hmembers]

lemma forall_itemValues? {levels : Nat} {ds : List Document} :
    ∀ {vs : List Json}, itemValues? levels ds = some vs →
      ∀ d ∈ ds, ∃ v, d.value? levels = some v := by
  induction ds with
  | nil => exact fun _ => List.forall_mem_nil _
  | cons d ds ih =>
      intro vs h
      simp only [itemValues?, Option.bind_eq_bind, Option.bind_eq_some_iff] at h
      obtain ⟨v, hv, ws, hws, -⟩ := h
      exact List.forall_mem_cons.mpr ⟨⟨v, hv⟩, ih hws⟩

lemma forall_memberValues? {levels : Nat} {ms : List (RawString × Document)} :
    ∀ {es : Object}, memberValues? levels ms = some es →
      ∀ m ∈ ms, ∃ v, m.2.value? levels = some v := by
  induction ms with
  | nil => exact fun _ => List.forall_mem_nil _
  | cons m ms ih =>
      intro es h
      simp only [memberValues?, Option.bind_eq_bind, Option.bind_eq_some_iff] at h
      obtain ⟨key, -, v, hv, fs, hfs, -⟩ := h
      exact List.forall_mem_cons.mpr ⟨⟨v, hv⟩, ih hfs⟩

lemma itemNesting_le {levels : Nat} {ds : List Document} (h : ∀ d ∈ ds, d.nesting ≤ levels) :
    itemNesting ds ≤ levels := by
  induction ds with
  | nil => exact Nat.zero_le _
  | cons d ds ih =>
      obtain ⟨hd, hds⟩ := List.forall_mem_cons.mp h
      exact Nat.max_le.mpr ⟨hd, ih hds⟩

lemma memberNesting_le {levels : Nat} {ms : List (RawString × Document)}
    (h : ∀ m ∈ ms, m.2.nesting ≤ levels) : memberNesting ms ≤ levels := by
  induction ms with
  | nil => exact Nat.zero_le _
  | cons m ms ih =>
      obtain ⟨hm, hms⟩ := List.forall_mem_cons.mp h
      exact Nat.max_le.mpr ⟨hm, ih hms⟩

/-- With fewer levels, it is not read at all. -/
theorem nesting_le_of_value? (d : Document) :
    ∀ levels v, d.value? levels = some v → d.nesting ≤ levels := by
  induction d using ind with
  | array ds ih =>
      intro levels v h
      cases levels with
      | zero => simp [value?] at h
      | succ levels =>
          rw [value?, Option.map_eq_some_iff] at h
          obtain ⟨vs, hvs, -⟩ := h
          refine Nat.succ_le_succ (itemNesting_le fun d hd => ?_)
          obtain ⟨w, hw⟩ := forall_itemValues? hvs d hd
          exact ih d hd levels w hw
  | object ms ih =>
      intro levels v h
      cases levels with
      | zero => simp [value?] at h
      | succ levels =>
          rw [value?, Option.map_eq_some_iff] at h
          obtain ⟨es, hes, -⟩ := h
          refine Nat.succ_le_succ (memberNesting_le fun m hm => ?_)
          obtain ⟨w, hw⟩ := forall_memberValues? hes m hm
          exact ih m hm levels w hw
  | _ => exact fun _ _ _ => Nat.zero_le _

/-- **The limit on nesting is all that it adds** to a reading without one. -/
theorem value?_eq_some_iff {d : Document} {levels : Nat} {v : Json} :
    d.value? levels = some v ↔ d.nesting ≤ levels ∧ d.valueBy? RawNumber.scaled? = some v := by
  constructor
  · intro h
    have hlevels := d.nesting_le_of_value? levels v h
    exact ⟨hlevels, d.value?_eq_valueBy? levels hlevels ▸ h⟩
  · rintro ⟨hlevels, h⟩
    rw [d.value?_eq_valueBy? levels hlevels, h]

/-! ### What is in a value that was read -/

/-- A value as it is read: an integer fits 64 bits, with a sign or without, and the names of an
object are distinct. -/
def IsReadValue : Json → Prop
  | .number (.integer n) => -9223372036854775808 ≤ n ∧ n < 18446744073709551616
  | .object ms => Fields.Distinct ms
  | _ => True

/-- Each item is the value of one of the documents. -/
lemma exists_of_itemValues? {levels : Nat} {ds : List Document} :
    ∀ {vs : List Json}, itemValues? levels ds = some vs →
      ∀ v ∈ vs, ∃ d ∈ ds, d.value? levels = some v := by
  induction ds with
  | nil =>
      intro vs h
      cases h
      exact List.forall_mem_nil _
  | cons d ds ih =>
      intro vs h
      simp only [itemValues?, Option.bind_eq_bind, Option.bind_eq_some_iff] at h
      obtain ⟨v, hv, ws, hws, h⟩ := h
      cases h
      refine List.forall_mem_cons.mpr ⟨⟨d, List.mem_cons_self, hv⟩, fun w hw => ?_⟩
      obtain ⟨e, he, hew⟩ := ih hws w hw
      exact ⟨e, List.mem_cons_of_mem d he, hew⟩

/-- Each member has the value of one of the documents. -/
lemma exists_of_memberValues? {levels : Nat} {ms : List (RawString × Document)} :
    ∀ {es : Object}, memberValues? levels ms = some es →
      ∀ e ∈ es, ∃ m ∈ ms, m.2.value? levels = some e.2 := by
  induction ms with
  | nil =>
      intro es h
      cases h
      exact List.forall_mem_nil _
  | cons m ms ih =>
      intro es h
      simp only [memberValues?, Option.bind_eq_bind, Option.bind_eq_some_iff] at h
      obtain ⟨key, -, v, hv, fs, hfs, h⟩ := h
      cases h
      refine List.forall_mem_cons.mpr ⟨⟨m, List.mem_cons_self, hv⟩, fun e he => ?_⟩
      obtain ⟨n, hn, hne⟩ := ih hfs e he
      exact ⟨n, List.mem_cons_of_mem m hn, hne⟩

/-- All values in what is read are as they should be. -/
lemma isReadValue_of_value? (d : Document) :
    ∀ levels v, d.value? levels = some v → ∀ w ∈ v.subvalues, IsReadValue w := by
  induction d using ind with
  | null =>
      intro levels v h
      rw [value?] at h
      cases h
      simp [Json.subvalues, IsReadValue]
  | bool b =>
      intro levels v h
      rw [value?] at h
      cases h
      simp [Json.subvalues, IsReadValue]
  | string s =>
      intro levels v h
      rw [value?, Option.map_eq_some_iff] at h
      obtain ⟨t, -, rfl⟩ := h
      simp [Json.subvalues, IsReadValue]
  | number n =>
      intro levels v h
      rw [value?, Option.map_eq_some_iff] at h
      obtain ⟨k, hk, rfl⟩ := h
      rw [RawNumber.value?, RawNumber.valueBy?] at hk
      split at hk
      · rename_i hinteger
        cases hk
        simp only [RawNumber.isInteger, Bool.and_eq_true, decide_eq_true_eq] at hinteger
        simpa [Json.subvalues, IsReadValue] using hinteger.2
      · obtain ⟨x, -, rfl⟩ := Option.map_eq_some_iff.mp hk
        simp [Json.subvalues, IsReadValue]
  | array ds ih =>
      intro levels v h
      cases levels with
      | zero => simp [value?] at h
      | succ levels =>
          rw [value?, Option.map_eq_some_iff] at h
          obtain ⟨vs, hvs, rfl⟩ := h
          refine Json.forall_subvalues_array.mpr ⟨trivial, fun v hv => ?_⟩
          obtain ⟨d, hd, hdv⟩ := exists_of_itemValues? hvs v hv
          exact ih d hd levels v hdv
  | object ms ih =>
      intro levels v h
      cases levels with
      | zero => simp [value?] at h
      | succ levels =>
          rw [value?, Option.map_eq_some_iff] at h
          obtain ⟨es, hes, rfl⟩ := h
          refine Json.forall_subvalues_object.mpr ⟨Fields.distinct_ofList es, fun e he => ?_⟩
          obtain ⟨m, hm, hme⟩ := exists_of_memberValues? hes e (Fields.mem_ofList he)
          exact ih m hm levels e.2 hme

end Document

/-- **What is in a value that was read**: names are distinct in every object, and integers fit
64 bits. -/
theorem Json.parse?_holds {text : String} {v : Json} (h : parse? text = some v) :
    v.HasDistinctNames ∧ v.HasWordIntegers := by
  obtain ⟨d, -, hv⟩ := Option.bind_eq_some_iff.mp h
  have hall := d.isReadValue_of_value? _ v hv
  exact ⟨fun ms hms => hall _ hms, fun n hn => hall _ hn⟩

end EventQuery
