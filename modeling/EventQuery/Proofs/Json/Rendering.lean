import EventQuery.Proofs.Json.Grammar
import EventQuery.Proofs.Json.Numerals
import EventQuery.Proofs.Json.Subvalues

/-!
The texts of written values.

* `Json.document`: the document that a value is written as.
* `Json.areSpelled_render`: wherever it stands, the text of a value is one of the tokens of its
  document; `Json.read?_text`: so its text is read as that document, whatever the indent.
-/

namespace EventQuery

/-! ### Values as documents -/

/-- The piece of a string that a character is written as: a code unit for the control
characters that have no escape of their own. -/
def StringPiece.ofChar (c : Char) : StringPiece :=
  if c ∈ ['\x08', '\t', '\n', '\x0c', '\r'] then .char c
  else if c.toNat < 0x20 then .unit c.toNat
  else .char c

/-- A string as it is written. -/
def RawString.ofString (s : String) : RawString := s.toList.map .ofChar

mutual

/-- The document that a value is written as. -/
def Json.document : Json → Document
  | .null => .null
  | .bool b => .bool b
  | .number n => .number n.raw
  | .string s => .string (.ofString s)
  | .array vs => .array (itemDocuments vs)
  | .object ms => .object (memberDocuments ms)

/-- The documents of the items of an array. -/
def itemDocuments : List Json → List Document
  | [] => []
  | v :: rest => v.document :: itemDocuments rest

/-- The documents of the members of an object. -/
def memberDocuments : List (String × Json) → List (RawString × Document)
  | [] => []
  | (key, v) :: rest => (.ofString key, v.document) :: memberDocuments rest

end

/-! ### Strings and white space -/

/-- A character of a string is written as the text of its piece. -/
lemma isSpelled_ofChar (c : Char) : (StringPiece.ofChar c).IsSpelled (escapeChar c) := by
  -- characters with a short escape, other control characters, and those that stand for themselves
  by_cases hshort : c ∈ ['"', '\\', '\x08', '\t', '\n', '\x0c', '\r']
  · simp only [List.mem_cons, List.not_mem_nil, or_false] at hshort
    rcases hshort with rfl | rfl | rfl | rfl | rfl | rfl | rfl <;> exact .escape (by decide)
  · simp only [List.mem_cons, List.not_mem_nil, or_false, not_or] at hshort
    obtain ⟨hquote, hbackslash, hb, ht, hn, hf, hr⟩ := hshort
    by_cases hcontrol : c.toNat < 0x20
    · have hhex : ∀ n < 16, hexDigitValue? (Nat.digitChar n) = some n := by decide
      have hpiece : StringPiece.ofChar c
          = .unit ([0, 0, c.toNat / 16, c.toNat % 16].foldl (fun u v => 16 * u + v) 0) := by
        have hvalue : 16 * (c.toNat / 16) + c.toNat % 16 = c.toNat := by omega
        simp [StringPiece.ofChar, hb, ht, hn, hf, hr, hcontrol, hvalue]
      have hescape : escapeChar c
          = ['\\', 'u', '0', '0', Nat.digitChar (c.toNat / 16), Nat.digitChar (c.toNat % 16)] := by
        simp [escapeChar, hquote, hbackslash, hb, ht, hn, hf, hr, hcontrol]
      rw [hpiece, hescape]
      exact .unit (.cons rfl (.cons rfl (.cons (hhex _ (by omega))
        (.cons (hhex _ (by omega)) .nil)))) rfl
    · have hpiece : StringPiece.ofChar c = .char c := by simp [StringPiece.ofChar, hcontrol]
      have hescape : escapeChar c = [c] := by
        simp [escapeChar, hquote, hbackslash, hb, ht, hn, hf, hr, hcontrol]
      rw [hpiece, hescape]
      exact .char hquote hbackslash (by omega)

lemma isSpelled_ofString (s : String) :
    (RawString.ofString s).IsSpelled (s.toList.flatMap escapeChar) := by
  refine ⟨s.toList.map escapeChar, ?_, List.flatMap_def⟩
  rw [RawString.ofString]
  induction s.toList with
  | nil => exact .nil
  | cons c cs ih => exact .cons (isSpelled_ofChar c) ih

namespace Token.AreSpelled

variable {ts : List Token} {text : List Char}

/-- A punctuation character is a token. -/
lemma mark {c : Char} {t : Token} (hmark : (c, t) ∈ marks) (h : AreSpelled ts text) :
    AreSpelled (t :: ts) (c :: text) :=
  .cons (.mark hmark) h

/-- So is a string in quotes. -/
lemma quoted (s : String) (h : AreSpelled ts text) :
    AreSpelled (.string (.ofString s) :: ts) (EventQuery.quoted s ++ text) :=
  .cons (.string (isSpelled_ofString s)) h

/-- The start of a line is white space. -/
lemma lineStart (indent depth : Nat) (h : AreSpelled ts text) :
    AreSpelled ts (Json.lineStart indent depth ++ text) := by
  have hspaces : ∀ n, AreSpelled ts (List.replicate n ' ' ++ text) := by
    intro n
    induction n with
    | zero => exact h
    | succ n ih => exact .gap rfl ih
  rw [Json.lineStart]
  split
  · exact h
  · exact .gap rfl (hspaces _)

/-- A colon stands between a name and its value, with white space or without. -/
lemma keySeparator (indent : Nat) (h : AreSpelled ts text) :
    AreSpelled (.colon :: ts) (Json.keySeparator indent ++ text) := by
  rw [Json.keySeparator]
  split
  · exact h.mark (by decide)
  · exact .mark (by decide) (.gap rfl h)

end Token.AreSpelled

/-! ### Values -/

namespace Json

open Token

/-- Wherever it stands, the text of a value is one of the tokens of its document. -/
def IsSpelledOut (indent : Nat) (v : Json) : Prop := ∀ depth {ts rest}, AreSpelled ts rest →
  AreSpelled (v.document.tokens ++ ts) (render indent depth v ++ rest)

variable {ts : List Token} {rest : List Char}

lemma areSpelled_renderItems {indent : Nat} {vs : List Json}
    (h : ∀ v ∈ vs, v.IsSpelledOut indent) (depth : Nat) (hrest : AreSpelled ts rest) :
    AreSpelled (Document.itemTokens (itemDocuments vs) ++ ts)
      (renderItems indent depth vs ++ rest) := by
  induction vs with
  | nil =>
      rw [renderItems, List.append_assoc]
      exact (hrest.mark (by decide)).lineStart indent depth
  | cons v vs ih =>
      obtain ⟨hv, hvs⟩ := List.forall_mem_cons.mp h
      simp only [renderItems, itemDocuments, Document.itemTokens, List.cons_append,
        List.append_assoc]
      exact ((hv _ (ih hvs)).lineStart _ _).mark (by decide)

lemma areSpelled_renderMembers {indent : Nat} {ms : List (String × Json)}
    (h : ∀ m ∈ ms, m.2.IsSpelledOut indent) (depth : Nat) (hrest : AreSpelled ts rest) :
    AreSpelled (Document.memberTokens (memberDocuments ms) ++ ts)
      (renderMembers indent depth ms ++ rest) := by
  induction ms with
  | nil =>
      rw [renderMembers, List.append_assoc]
      exact (hrest.mark (by decide)).lineStart indent depth
  | cons m ms ih =>
      obtain ⟨key, v⟩ := m
      obtain ⟨hv, hms⟩ := List.forall_mem_cons.mp h
      simp only [renderMembers, memberDocuments, Document.memberTokens, List.cons_append,
        List.append_assoc]
      exact ((((hv _ (ih hms)).keySeparator _).quoted key).lineStart _ _).mark (by decide)

/-- **The text of a value** is one of the tokens of its document, whatever the indent. -/
lemma isSpelledOut (indent : Nat) (v : Json) : v.IsSpelledOut indent := by
  induction v using Json.ind with
  | null =>
      intro depth ts rest h
      rw [render]
      exact .cons .null h
  | bool b =>
      intro depth ts rest h
      cases b with
      | false =>
          rw [render]
          exact .cons .false h
      | true =>
          rw [render]
          exact .cons .true h
  | number n =>
      intro depth ts rest h
      rw [render]
      exact .cons (.number n.isSpelled_raw) h
  | string s =>
      intro depth ts rest h
      rw [render]
      exact h.quoted s
  | array vs ih =>
      intro depth ts rest h
      cases vs with
      | nil =>
          rw [render]
          exact (h.mark (by decide)).mark (by decide)
      | cons v vs =>
          obtain ⟨hv, hvs⟩ := List.forall_mem_cons.mp ih
          simp only [render, document, itemDocuments, Document.tokens, List.cons_append,
            List.append_assoc]
          exact ((hv _ (areSpelled_renderItems hvs depth h)).lineStart _ _).mark (by decide)
  | object ms ih =>
      intro depth ts rest h
      cases ms with
      | nil =>
          rw [render]
          exact (h.mark (by decide)).mark (by decide)
      | cons m ms =>
          obtain ⟨key, v⟩ := m
          obtain ⟨hv, hms⟩ := List.forall_mem_cons.mp ih
          simp only [render, document, memberDocuments, Document.tokens, List.cons_append,
            List.append_assoc]
          exact ((((hv _ (areSpelled_renderMembers hms depth h)).keySeparator _).quoted
            key).lineStart _ _).mark (by decide)

/-- **The text of a value** is read as its document, whatever the indent. -/
theorem read?_text (indent : Nat) (v : Json) :
    Document.read? (text indent v) = some v.document := by
  have h := v.isSpelledOut indent 0 .nil
  rw [List.append_nil, List.append_nil] at h
  rw [Document.read?_eq_some_iff, Document.IsSpelled, text, String.toList_ofList]
  exact h

end Json

end EventQuery
