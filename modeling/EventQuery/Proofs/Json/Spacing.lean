import EventQuery.Proofs.Json.Numerals
import EventQuery.Proofs.Json.Subvalues

/-!
The white space of an indented text.

* `withoutGaps`: a text without the white space outside its string literals.
* `Json.withoutGaps_render`: without it, the text of a value under any indent is the
  compact one.
-/

namespace EventQuery

/-! ### Deleting white space -/

/-- Where a character of a text stands. -/
inductive TextPlace where
  /-- Outside of all strings. -/
  | outside
  /-- In a string. -/
  | inside
  /-- In a string, after a backslash. -/
  | escaped

/-- The characters of a text from a place on, without the white space outside its
string literals. -/
def withoutGaps : TextPlace → List Char → List Char
  | _, [] => []
  | .outside, c :: cs =>
    if Token.isGap c then withoutGaps .outside cs
    else c :: withoutGaps (if c = '"' then .inside else .outside) cs
  | .inside, c :: cs =>
    c :: withoutGaps (if c = '"' then .outside else if c = '\\' then .escaped else .inside) cs
  | .escaped, c :: cs => c :: withoutGaps .inside cs

/-- A character outside of strings that is neither white space nor a quote stays. -/
lemma withoutGaps_cons {c : Char} (hgap : Token.isGap c = false) (hquote : c ≠ '"')
    (cs : List Char) : withoutGaps .outside (c :: cs) = c :: withoutGaps .outside cs := by
  simp [withoutGaps, hgap, hquote]

/-- Words stay. -/
lemma withoutGaps_word {word : List Char} (h : ∀ c ∈ word, Token.isWordChar c = true)
    (rest : List Char) :
    withoutGaps .outside (word ++ rest) = word ++ withoutGaps .outside rest := by
  induction word with
  | nil => rfl
  | cons c word ih =>
      obtain ⟨hc, hword⟩ := List.forall_mem_cons.mp h
      have hquote : c ≠ '"' := by
        rintro rfl
        exact absurd hc (by decide)
      rw [List.cons_append, withoutGaps_cons (Token.isGap_eq_false_of_isWordChar hc) hquote, ih hword,
        List.cons_append]

/-- The characters of a string literal stay. -/
lemma withoutGaps_escapeChar (c : Char) (rest : List Char) :
    withoutGaps .inside (escapeChar c ++ rest) = escapeChar c ++ withoutGaps .inside rest := by
  have hhex : ∀ n < 16, Nat.digitChar n ≠ '"' ∧ Nat.digitChar n ≠ '\\' := by decide
  unfold escapeChar
  split_ifs with hquote hbackslash <;> first | rfl | skip
  · rename_i hcontrol
    obtain ⟨hq, hb⟩ := hhex (c.toNat / 16) (by omega)
    obtain ⟨hq', hb'⟩ := hhex (c.toNat % 16) (by omega)
    simp [withoutGaps, hq, hb, hq', hb']
  · simp [withoutGaps, hquote, hbackslash]

/-- A string literal stays. -/
lemma withoutGaps_quoted (s : String) (rest : List Char) :
    withoutGaps .outside (quoted s ++ rest) = quoted s ++ withoutGaps .outside rest := by
  have hchars : ∀ cs : List Char, withoutGaps .inside (cs.flatMap escapeChar ++ '"' :: rest)
      = cs.flatMap escapeChar ++ '"' :: withoutGaps .outside rest := by
    intro cs
    induction cs with
    | nil => rfl
    | cons c cs ih =>
        rw [List.flatMap_cons, List.append_assoc, withoutGaps_escapeChar, ih, List.append_assoc]
  have hopen : ∀ cs, withoutGaps .outside ('"' :: cs) = '"' :: withoutGaps .inside cs :=
    fun _ => rfl
  rw [quoted, List.cons_append, List.append_assoc, List.singleton_append, hopen, hchars,
    List.cons_append, List.append_assoc, List.singleton_append]

/-- The start of a line is deleted. -/
lemma withoutGaps_lineStart (indent depth : Nat) (rest : List Char) :
    withoutGaps .outside (Json.lineStart indent depth ++ rest) = withoutGaps .outside rest := by
  have hgap : ∀ {c}, Token.isGap c = true → ∀ cs,
      withoutGaps .outside (c :: cs) = withoutGaps .outside cs := by
    intro c hc cs
    rw [withoutGaps, if_pos hc]
  have hspaces : ∀ n, withoutGaps .outside (List.replicate n ' ' ++ rest)
      = withoutGaps .outside rest := by
    intro n
    induction n with
    | zero => rfl
    | succ n ih => rw [List.replicate_succ, List.cons_append, hgap rfl, ih]
  rw [Json.lineStart]
  split
  · rfl
  · rw [List.cons_append, hgap rfl, hspaces]

/-- Of what separates a name from its value, the colon stays. -/
lemma withoutGaps_keySeparator (indent : Nat) (rest : List Char) :
    withoutGaps .outside (Json.keySeparator indent ++ rest)
      = ':' :: withoutGaps .outside rest := by
  rw [Json.keySeparator]
  split <;> rfl

/-! ### Values -/

namespace Json

/-- Without its white space, the text of a value is the compact one, wherever it stands. -/
def IsCompacted (indent : Nat) (v : Json) : Prop := ∀ depth rest,
  withoutGaps .outside (render indent depth v ++ rest)
    = render 0 depth v ++ withoutGaps .outside rest

lemma withoutGaps_renderItems {indent : Nat} {vs : List Json}
    (h : ∀ v ∈ vs, v.IsCompacted indent) (depth : Nat) (rest : List Char) :
    withoutGaps .outside (renderItems indent depth vs ++ rest)
      = renderItems 0 depth vs ++ withoutGaps .outside rest := by
  induction vs with
  | nil =>
      rw [renderItems, List.append_assoc, withoutGaps_lineStart, renderItems]
      rfl
  | cons v vs ih =>
      obtain ⟨hv, hvs⟩ := List.forall_mem_cons.mp h
      simp only [renderItems, List.cons_append, List.append_assoc]
      rw [withoutGaps_cons (by decide) (by decide), withoutGaps_lineStart, hv, ih hvs]
      rfl

lemma withoutGaps_renderMembers {indent : Nat} {ms : List (String × Json)}
    (h : ∀ m ∈ ms, m.2.IsCompacted indent) (depth : Nat) (rest : List Char) :
    withoutGaps .outside (renderMembers indent depth ms ++ rest)
      = renderMembers 0 depth ms ++ withoutGaps .outside rest := by
  induction ms with
  | nil =>
      rw [renderMembers, List.append_assoc, withoutGaps_lineStart, renderMembers]
      rfl
  | cons m ms ih =>
      obtain ⟨key, v⟩ := m
      obtain ⟨hv, hms⟩ := List.forall_mem_cons.mp h
      simp only [renderMembers, List.cons_append, List.append_assoc]
      rw [withoutGaps_cons (by decide) (by decide), withoutGaps_lineStart, withoutGaps_quoted,
        withoutGaps_keySeparator, hv, ih hms]
      rfl

lemma isCompacted (indent : Nat) (v : Json) : v.IsCompacted indent := by
  induction v using Json.ind with
  | null =>
      intro depth rest
      rw [render, render]
      exact withoutGaps_word (List.all_eq_true.mp rfl) rest
  | bool b =>
      intro depth rest
      cases b <;>
      · rw [render, render]
        exact withoutGaps_word (List.all_eq_true.mp rfl) rest
  | number n =>
      intro depth rest
      rw [render, render]
      exact withoutGaps_word n.isSpelled_raw.isWordChar rest
  | string s =>
      intro depth rest
      rw [render, render]
      exact withoutGaps_quoted s rest
  | array vs ih =>
      intro depth rest
      cases vs with
      | nil =>
          rw [render, render]
          rfl
      | cons v vs =>
          obtain ⟨hv, hvs⟩ := List.forall_mem_cons.mp ih
          simp only [render, List.cons_append, List.append_assoc]
          rw [withoutGaps_cons (by decide) (by decide), withoutGaps_lineStart, hv,
            withoutGaps_renderItems hvs]
          rfl
  | object ms ih =>
      intro depth rest
      cases ms with
      | nil =>
          rw [render, render]
          rfl
      | cons m ms =>
          obtain ⟨key, v⟩ := m
          obtain ⟨hv, hms⟩ := List.forall_mem_cons.mp ih
          simp only [render, List.cons_append, List.append_assoc]
          rw [withoutGaps_cons (by decide) (by decide), withoutGaps_lineStart, withoutGaps_quoted,
            withoutGaps_keySeparator, hv, withoutGaps_renderMembers hms]
          rfl

/-- **The compact text** is the text under any indent, without the white space outside
string literals. -/
theorem withoutGaps_render (indent : Nat) (v : Json) :
    withoutGaps .outside (render indent 0 v) = render 0 0 v := by
  have h := v.isCompacted indent 0 []
  rwa [List.append_nil, withoutGaps, List.append_nil] at h

end Json

end EventQuery
