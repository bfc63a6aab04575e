import EventQuery.Json.Token
import EventQuery.Proofs.Text.Digits
import Mathlib.Data.List.TakeWhile

/-!
The words of numbers.

* `RawNumber.IsSpelled`: the words that spell a number: a minus or nothing, digits without a
  zero in front of others, a fraction and an exponent.
* `RawNumber.ofWord?_eq_some_iff`: these are the words that are read as it.
* `RawNumber.IsSpelled.isWordChar`: they consist of the characters of words.
-/

namespace EventQuery

/-- The sign in front of a number: a minus or nothing. -/
def signText (negative : Bool) : List Char := if negative then ['-'] else []

/-! ### The grammar -/

/-- The digits before the point: a zero alone, or digits that do not start with one. -/
inductive IsWhole : List Char → Prop where
  | zero : IsWhole ['0']
  | cons {c : Char} {cs : List Char} : AreDigits (c :: cs) → c ≠ '0' → IsWhole (c :: cs)

namespace IsWhole

lemma digits {whole : List Char} (h : IsWhole whole) : AreDigits whole := by
  cases h with
  | zero => exact .zeros 1
  | cons h => exact h

/-- The reader takes these digits and no others. -/
lemma plain_iff {whole : List Char} (h : AreDigits whole) :
    RawNumber.plainWhole whole = true ↔ IsWhole whole := by
  fun_cases RawNumber.plainWhole whole with
  | case1 => exact ⟨nofun, nofun⟩
  | case2 => exact ⟨fun _ => .zero, fun _ => rfl⟩
  | case3 c cs hzero =>
      rw [bne_iff_ne]
      constructor
      · exact .cons h
      · rintro (_ | ⟨-, hc⟩)
        · exact absurd rfl (hzero rfl)
        · exact hc

lemma decimalDigits (n : Nat) : IsWhole (decimalDigits n) := by
  by_cases hn : n = 0
  · subst hn
    exact zero
  · have hhead := head?_decimalDigits_ne_zero hn
    have hdigits := areDigits_decimalDigits n
    cases h : EventQuery.decimalDigits n with
    | nil => exact absurd h (decimalDigits_ne_nil n)
    | cons c cs =>
        rw [h] at hdigits hhead
        exact cons hdigits fun hc => hhead (congrArg some hc)

end IsWhole

namespace RawNumber

/-- The text of a fraction: a point and digits, or nothing. -/
inductive SpellsFraction : List Char → List Char → Prop where
  | absent : SpellsFraction [] []
  | digits {ds : List Char} : AreDigits ds → ds ≠ [] → SpellsFraction ds ('.' :: ds)

/-- The text of an exponent: a letter, a sign that may be left out unless it is a minus, and
digits, or nothing. -/
inductive SpellsExponent : Option Int → List Char → Prop where
  | absent : SpellsExponent none []
  | above {letter : Char} {sign ds : List Char} : letter = 'e' ∨ letter = 'E' →
      sign = [] ∨ sign = ['+'] → AreDigits ds → ds ≠ [] →
      SpellsExponent (some (digitsValue ds)) (letter :: (sign ++ ds))
  | below {letter : Char} {ds : List Char} : letter = 'e' ∨ letter = 'E' → AreDigits ds →
      ds ≠ [] → SpellsExponent (some (-(digitsValue ds : Int))) (letter :: '-' :: ds)

/-- The text of a number: a minus or nothing, digits without a zero in front of others, a
fraction and an exponent. -/
inductive IsSpelled (n : RawNumber) : List Char → Prop where
  | parts {fraction exponent : List Char} : IsWhole n.whole →
      SpellsFraction n.fraction fraction → SpellsExponent n.exponent exponent →
      n.IsSpelled (signText n.negative ++ (n.whole ++ (fraction ++ exponent)))

/-! ### The reader -/

variable {negative : Bool} {whole fraction rest word : List Char} {n : RawNumber}

/-- The number with these digits before the point, if its word goes on like this. -/
def ofTail? (negative : Bool) (whole : List Char) : List Char → Option RawNumber
  | '.' :: rest =>
    let (fraction, rest) := rest.span Char.isDigit
    if fraction = [] then none else ofRest? negative whole fraction rest
  | rest => ofRest? negative whole [] rest

/-- Digits are taken for an exponent without a sign. -/
lemma readSign_digits {ds : List Char} (h : AreDigits ds) : readSign ds = (false, ds) := by
  cases ds with
  | nil => rfl
  | cons c ds =>
      have hc := h c List.mem_cons_self
      rw [readSign]
      · rintro tail ⟨⟩
        exact absurd hc (by decide)
      · rintro tail ⟨⟩
        exact absurd hc (by decide)

lemma exists_of_readSign (cs : List Char) : ∃ sign, cs = sign ++ (readSign cs).2 ∧
    ((readSign cs).1 = true ∧ sign = ['-'] ∨
      (readSign cs).1 = false ∧ (sign = [] ∨ sign = ['+'])) := by
  fun_cases readSign cs with
  | case1 rest => exact ⟨['-'], rfl, .inl ⟨rfl, rfl⟩⟩
  | case2 rest => exact ⟨['+'], rfl, .inr ⟨rfl, .inr rfl⟩⟩
  | case3 cs => exact ⟨[], rfl, .inr ⟨rfl, .inl rfl⟩⟩

lemma spellsExponent_of_readExponent? {c : Char} {e : Int}
    (h : NumberLiteral.readExponent? (c :: rest) = some e) :
    SpellsExponent (some e) (c :: rest) := by
  simp only [NumberLiteral.readExponent?, Option.ite_none_right_eq_some, Option.some.injEq] at h
  obtain ⟨hletter, ⟨hne, hall⟩, rfl⟩ := h
  have hdigits : AreDigits (readSign rest).2 := List.all_eq_true.mp hall
  obtain ⟨sign, hrest, ⟨hminus, rfl⟩ | ⟨hplus, hsign⟩⟩ := exists_of_readSign rest
  · rw [hminus, if_pos rfl]
    nth_rewrite 2 [hrest]
    exact .below hletter hdigits hne
  · rw [hplus, if_neg (by decide)]
    nth_rewrite 2 [hrest]
    exact .above hletter hsign hdigits hne

lemma ofRest?_eq_some_iff : ofRest? negative whole fraction rest = some n ↔
    ∃ e, SpellsExponent e rest ∧ n = ⟨negative, whole, fraction, e⟩ := by
  constructor
  · intro h
    cases rest with
    | nil =>
        cases h
        exact ⟨none, .absent, rfl⟩
    | cons c rest =>
        obtain ⟨e, he, rfl⟩ := Option.map_eq_some_iff.mp h
        exact ⟨some e, spellsExponent_of_readExponent? he, rfl⟩
  · rintro ⟨e, he, rfl⟩
    cases he with
    | absent => rfl
    | above hletter hsign hdigits hne =>
        have hall := List.all_eq_true.mpr hdigits
        rcases hsign with rfl | rfl
        · simp [ofRest?, NumberLiteral.readExponent?, hletter, readSign_digits hdigits, hne, hall]
        · simp [ofRest?, NumberLiteral.readExponent?, hletter, readSign, hne, hall]
    | below hletter hdigits hne =>
        simp [ofRest?, NumberLiteral.readExponent?, hletter, readSign, hne,
          List.all_eq_true.mpr hdigits]

lemma SpellsExponent.head?_isDigit {e : Option Int} (h : SpellsExponent e rest) (c : Char)
    (hc : rest.head? = some c) : c.isDigit = false := by
  cases h with
  | absent => cases hc
  | above hletter | below hletter =>
      cases hc
      rcases hletter with rfl | rfl <;> rfl

lemma ofTail?_eq_some_iff : ofTail? negative whole rest = some n ↔
    ∃ f e fraction exponent, SpellsFraction f fraction ∧ SpellsExponent e exponent ∧
      rest = fraction ++ exponent ∧ n = ⟨negative, whole, f, e⟩ := by
  constructor
  · intro h
    unfold ofTail? at h
    split at h
    · rename_i rest
      simp only [List.span_eq_takeWhile_dropWhile] at h
      split at h
      · cases h
      · rename_i hne
        obtain ⟨e, he, rfl⟩ := ofRest?_eq_some_iff.mp h
        refine ⟨_, e, _, _, .digits (fun c hc => List.mem_takeWhile_imp hc) hne, he, ?_, rfl⟩
        rw [List.cons_append, List.takeWhile_append_dropWhile]
    · obtain ⟨e, he, rfl⟩ := ofRest?_eq_some_iff.mp h
      exact ⟨[], e, [], rest, .absent, he, rfl, rfl⟩
  · rintro ⟨f, e, fraction, exponent, hf, he, rfl, rfl⟩
    have hrest : ofRest? negative whole f exponent = some ⟨negative, whole, f, e⟩ :=
      ofRest?_eq_some_iff.mpr ⟨e, he, rfl⟩
    cases hf with
    | absent =>
        cases he with
        | absent => exact hrest
        | above hletter | below hletter => rcases hletter with rfl | rfl <;> exact hrest
    | digits hdigits hne =>
        simp only [List.cons_append, ofTail?, span_digits hdigits exponent he.head?_isDigit, hne,
          if_false]
        exact hrest

/-- A word is its sign and what follows. -/
lemma ofWord?_sign_append {body : List Char} (h : negative = false → body.head? ≠ some '-') :
    ofWord? (signText negative ++ body) = if plainWhole (body.takeWhile Char.isDigit) then
      ofTail? negative (body.takeWhile Char.isDigit) (body.dropWhile Char.isDigit) else none := by
  have hspan := List.span_eq_takeWhile_dropWhile (p := Char.isDigit) (l := body)
  generalize body.takeWhile Char.isDigit = whole at hspan ⊢
  generalize body.dropWhile Char.isDigit = rest at hspan ⊢
  cases negative with
  | true =>
      rw [signText, if_pos rfl, List.singleton_append, ofWord?]
      simp only [hspan]
      cases plainWhole whole <;> rfl
  | false =>
      rw [signText, if_neg (by decide), List.nil_append, ofWord?]
      · simp only [hspan]
        cases plainWhole whole <;> rfl
      · rintro tail rfl
        exact h rfl rfl

/-- A word is its sign, the digits before the point and what follows. -/
lemma ofWord?_append (hwhole : IsWhole whole) (negative : Bool)
    (hrest : ∀ c, rest.head? = some c → c.isDigit = false) :
    ofWord? (signText negative ++ (whole ++ rest)) = ofTail? negative whole rest := by
  have hspan := span_digits hwhole.digits rest hrest
  rw [List.span_eq_takeWhile_dropWhile] at hspan
  obtain ⟨htake, hdrop⟩ := Prod.mk.inj hspan
  rw [ofWord?_sign_append, htake, hdrop, if_pos ((IsWhole.plain_iff hwhole.digits).mpr hwhole)]
  -- the first character is a digit, so it is not taken for a sign
  intro _ hhead
  cases hwhole with
  | zero => cases hhead
  | cons hdigits =>
      cases hhead
      exact absurd (hdigits '-' List.mem_cons_self) (by decide)

lemma exists_of_ofWord? (h : ofWord? word = some n) : ∃ negative whole rest,
    IsWhole whole ∧ ofTail? negative whole rest = some n ∧
      word = signText negative ++ (whole ++ rest) := by
  obtain ⟨negative, body, hbody, rfl⟩ : ∃ negative body,
      (negative = false → body.head? ≠ some '-') ∧ word = signText negative ++ body := by
    by_cases hminus : word.head? = some '-'
    · obtain ⟨body, rfl⟩ := List.head?_eq_some_iff.mp hminus
      exact ⟨true, body, nofun, rfl⟩
    · exact ⟨false, word, fun _ => hminus, rfl⟩
  rw [ofWord?_sign_append hbody, Option.ite_none_right_eq_some] at h
  obtain ⟨hplain, htail⟩ := h
  have hwhole : IsWhole (body.takeWhile Char.isDigit) :=
    (IsWhole.plain_iff fun c hc => List.mem_takeWhile_imp hc).mp hplain
  refine ⟨negative, _, _, hwhole, htail, ?_⟩
  rw [List.takeWhile_append_dropWhile]

/-- **The words that are read as numbers** are those that spell them. -/
lemma ofWord?_eq_some_iff : ofWord? word = some n ↔ n.IsSpelled word := by
  constructor
  · intro h
    obtain ⟨negative, whole, rest, hwhole, htail, rfl⟩ := exists_of_ofWord? h
    obtain ⟨f, e, fraction, exponent, hf, he, rfl, rfl⟩ := ofTail?_eq_some_iff.mp htail
    exact .parts (n := ⟨negative, whole, f, e⟩) hwhole hf he
  · obtain ⟨negative, whole, f, e⟩ := n
    rintro ⟨hwhole, hf, he⟩
    rw [ofWord?_append hwhole]
    · exact ofTail?_eq_some_iff.mpr ⟨f, e, _, _, hf, he, rfl, rfl⟩
    · cases hf with
      | absent => exact he.head?_isDigit
      | digits =>
          rintro _ ⟨⟩
          rfl

end RawNumber

/-! ### The characters of words -/

lemma Token.isGap_eq_false_of_isWordChar {c : Char} (h : isWordChar c = true) :
    isGap c = false := by
  by_contra hgap
  simp only [isGap, Bool.not_eq_false, Bool.or_eq_true, beq_iff_eq] at hgap
  rcases hgap with ((rfl | rfl) | rfl) | rfl <;> exact absurd h (by decide)

lemma AreDigits.isWordChar {cs : List Char} (h : AreDigits cs) :
    ∀ c ∈ cs, Token.isWordChar c = true := by
  intro c hc
  simp [Token.isWordChar, Char.isAlphanum, h c hc]

lemma RawNumber.IsSpelled.isWordChar {n : RawNumber} {word : List Char} (h : n.IsSpelled word) :
    ∀ c ∈ word, Token.isWordChar c = true := by
  obtain ⟨negative, whole, f, e⟩ := n
  obtain ⟨hwhole, hf, he⟩ := h
  simp only [List.forall_mem_append]
  refine ⟨?_, hwhole.digits.isWordChar, ?_, ?_⟩
  · cases negative <;> exact List.all_eq_true.mp rfl
  · cases hf with
    | absent => exact List.forall_mem_nil _
    | digits hds => exact List.forall_mem_cons.mpr ⟨rfl, hds.isWordChar⟩
  · cases he with
    | absent => exact List.forall_mem_nil _
    | above hletter hsign hds =>
        refine List.forall_mem_cons.mpr ⟨by rcases hletter with rfl | rfl <;> rfl, ?_⟩
        rcases hsign with rfl | rfl
        · exact hds.isWordChar
        · exact List.forall_mem_cons.mpr ⟨rfl, hds.isWordChar⟩
    | below hletter hds =>
        exact List.forall_mem_cons.mpr ⟨by rcases hletter with rfl | rfl <;> rfl,
          List.forall_mem_cons.mpr ⟨rfl, hds.isWordChar⟩⟩

end EventQuery
