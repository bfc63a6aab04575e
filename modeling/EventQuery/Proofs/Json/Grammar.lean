import EventQuery.Proofs.Json.Documents
import EventQuery.Proofs.Json.Words
import Mathlib.Data.List.Chain

/-!
The grammar of JSON texts.

A text is one of tokens with white space around them, and the tokens are those of a document.
The grammar says how each token is spelled and nothing about how it is found; the scanner takes
one character after the other and knows only what it is in the middle of.

* `StringPiece.IsSpelled`, `Token.IsSpelled`, `Token.AreSpelled`: the texts of a piece of a string,
  of a token and of tokens in a row; `Document.IsSpelled`: those of a document.
* `ScanMode.Leads`: the tokens that a text goes on with from the middle of another one;
  `Scanner.leads_step`: how one character in front changes them, `Scanner.leads_foldlM`: so the
  tokens that are found in a text are tokens of that text.
* `Token.scanFrom?_areSpelled`: the tokens of a text are found if no two words follow each other;
  `Document.areApart_tokens`: in a document they never do.
* `Document.read?_eq_some_iff`: the texts that are read are those of the grammar.
-/

namespace EventQuery

/-! ### The grammar -/

/-- Hexadecimal digits and their values. -/
def AreHexDigits (ds : List Char) (vs : List Nat) : Prop :=
  List.Forall₂ (fun c v => hexDigitValue? c = some v) ds vs

/-- The letters that stand for a character behind a backslash. -/
def StringPiece.escapes : List (Char × Char) :=
  [('"', '"'), ('\\', '\\'), ('/', '/'), ('b', '\x08'), ('f', '\x0c'), ('n', '\n'), ('r', '\r'),
    ('t', '\t')]

/-- The text of a piece of a string: a character that stands for itself, a letter behind a
backslash, or four hexadecimal digits behind a backslash and the letter `u`. -/
inductive StringPiece.IsSpelled : StringPiece → List Char → Prop where
  | char {c : Char} : c ≠ '"' → c ≠ '\\' → 0x20 ≤ c.toNat → IsSpelled (.char c) [c]
  | escape {letter c : Char} : (letter, c) ∈ escapes → IsSpelled (.char c) ['\\', letter]
  | unit {ds : List Char} {vs : List Nat} : AreHexDigits ds vs → ds.length = 4 →
      IsSpelled (.unit (vs.foldl (fun u v => 16 * u + v) 0)) ('\\' :: 'u' :: ds)

/-- The text of a string between its quotes. -/
def RawString.IsSpelled (s : RawString) (text : List Char) : Prop :=
  ∃ texts, List.Forall₂ StringPiece.IsSpelled s texts ∧ text = texts.flatten

namespace Token

/-- The tokens that are one punctuation character. -/
def marks : List (Char × Token) :=
  [('[', openArray), (']', closeArray), ('\x7b', openObject), ('\x7d', closeObject),
    (',', comma), (':', colon)]

/-- The text of a token. -/
inductive IsSpelled : Token → List Char → Prop where
  | mark {c : Char} {t : Token} : (c, t) ∈ marks → IsSpelled t [c]
  | null : IsSpelled null ['n', 'u', 'l', 'l']
  | true : IsSpelled (bool true) ['t', 'r', 'u', 'e']
  | false : IsSpelled (bool false) ['f', 'a', 'l', 's', 'e']
  | number {n : RawNumber} {word : List Char} : n.IsSpelled word → IsSpelled (number n) word
  | string {s : RawString} {text : List Char} : s.IsSpelled text →
      IsSpelled (string s) ('"' :: (text ++ ['"']))

/-- The text of tokens in a row, with white space wherever there is no token. -/
inductive AreSpelled : List Token → List Char → Prop where
  | nil : AreSpelled [] []
  | gap {ts : List Token} {c : Char} {text : List Char} : isGap c = true → AreSpelled ts text →
      AreSpelled ts (c :: text)
  | cons {t : Token} {ts : List Token} {word text : List Char} : t.IsSpelled word →
      AreSpelled ts text → AreSpelled (t :: ts) (word ++ text)

end Token

/-- The text of a document is one of its tokens. -/
def Document.IsSpelled (d : Document) (text : String) : Prop :=
  Token.AreSpelled d.tokens text.toList

lemma Token.AreSpelled.append {ts us : List Token} {text rest : List Char}
    (hts : AreSpelled ts text) (hus : AreSpelled us rest) :
    AreSpelled (ts ++ us) (text ++ rest) := by
  induction hts with
  | nil => exact hus
  | gap hc _ ih => exact .gap hc ih
  | cons ht _ ih =>
      rw [List.append_assoc]
      exact .cons ht ih

/-! ### What is read is of the grammar -/

/-- From the middle of a string, of which what was read is given in reverse, a text goes on with
these tokens. -/
def RawString.Leads (read : RawString) (ts : List Token) (text : List Char) : Prop :=
  ∃ s ts' inner rest, RawString.IsSpelled s inner ∧ Token.AreSpelled ts' rest ∧
    ts = .string (read.reverse ++ s) :: ts' ∧ text = inner ++ '"' :: rest

lemma RawString.Leads.append {p : StringPiece} {read : RawString} {ts : List Token}
    {word text : List Char} (hp : p.IsSpelled word) (h : RawString.Leads (p :: read) ts text) :
    RawString.Leads read ts (word ++ text) := by
  obtain ⟨s, ts', _, rest, ⟨texts, hs, rfl⟩, hts', rfl, rfl⟩ := h
  refine ⟨p :: s, ts', word ++ texts.flatten, rest, ⟨word :: texts, .cons hp hs, rfl⟩, hts', ?_,
    (List.append_assoc _ _ _).symm⟩
  rw [List.reverse_cons, List.append_assoc, List.singleton_append]

/-- From where a scanner is in this mode, a text goes on with these tokens. -/
def ScanMode.Leads : ScanMode → List Token → List Char → Prop
  | .between, ts, text => Token.AreSpelled ts text
  | .word read, ts, text => ∃ t ts' word rest, Token.ofWord? (read.reverse ++ word) = some t ∧
      Token.AreSpelled ts' rest ∧ ts = t :: ts' ∧ text = word ++ rest
  | .string read, ts, text => read.Leads ts text
  | .escape read, ts, text => ∃ p word rest, StringPiece.IsSpelled p ('\\' :: word) ∧
      RawString.Leads (p :: read) ts rest ∧ text = word ++ rest
  | .unit read value digits, ts, text => ∃ ds vs rest, AreHexDigits ds vs ∧
      ds.length + digits = 4 ∧
      RawString.Leads (.unit (vs.foldl (fun u v => 16 * u + v) value) :: read) ts rest ∧
      text = ds ++ rest

namespace Token

lemma isSpelled_of_ofPunctuation? {c : Char} {t : Token} (h : ofPunctuation? c = some t) :
    t.IsSpelled [c] := by
  unfold ofPunctuation? at h
  split at h <;> cases h <;> exact .mark (by decide)

lemma isSpelled_of_ofWord? {word : List Char} {t : Token} (h : ofWord? word = some t) :
    t.IsSpelled word := by
  unfold ofWord? at h
  split_ifs at h with hnull htrue hfalse
  · cases h
    exact hnull ▸ .null
  · cases h
    exact htrue ▸ .true
  · cases h
    exact hfalse ▸ .false
  · obtain ⟨n, hn, rfl⟩ := Option.map_eq_some_iff.mp h
    exact .number (RawNumber.ofWord?_eq_some_iff.mp hn)

lemma isSpelled_of_escaped? {letter c : Char} (h : escaped? letter = some c) :
    (StringPiece.char c).IsSpelled ['\\', letter] := by
  unfold escaped? at h
  split at h <;> cases h <;> exact .escape (by decide)

end Token

namespace Scanner

open Token

variable {s s' : Scanner} {c : Char} {ts' : List Token} {text : List Char}

/-- A character between two tokens, in front of what a text goes on with. -/
lemma leads_startToken {finished : List Token} (h : startToken finished c = some s')
    (hleads : s'.mode.Leads ts' text) : ∃ ts, AreSpelled ts (c :: text) ∧
      finished.reverse ++ ts = s'.finished.reverse ++ ts' := by
  unfold startToken at h
  split_ifs at h with hgap hquote hword
  · cases h
    exact ⟨ts', .gap hgap hleads, rfl⟩
  · cases h
    obtain ⟨s, ts, inner, rest, hs, hts, rfl, rfl⟩ := hleads
    have hcons := AreSpelled.cons (.string hs) hts
    rw [List.cons_append, List.append_assoc] at hcons
    exact ⟨_, hquote ▸ hcons, rfl⟩
  · cases h
    obtain ⟨t, ts, word, rest, ht, hts, rfl, rfl⟩ := hleads
    exact ⟨_, .cons (isSpelled_of_ofWord? ht) hts, rfl⟩
  · obtain ⟨t, ht, rfl⟩ := Option.map_eq_some_iff.mp h
    refine ⟨t :: ts', .cons (isSpelled_of_ofPunctuation? ht) hleads, ?_⟩
    rw [List.reverse_cons, List.append_assoc, List.singleton_append]

/-- **One character** in front of what a text goes on with. -/
lemma leads_step (h : s.step c = some s') (hleads : s'.mode.Leads ts' text) :
    ∃ ts, s.mode.Leads ts (c :: text) ∧
      s.finished.reverse ++ ts = s'.finished.reverse ++ ts' := by
  obtain ⟨mode, finished⟩ := s
  cases mode with
  | between => exact leads_startToken h hleads
  | word read =>
      simp only [step] at h
      split_ifs at h with hc
      · cases h
        obtain ⟨t, ts, word, rest, ht, hts, rfl, rfl⟩ := hleads
        rw [List.reverse_cons, List.append_assoc, List.singleton_append] at ht
        exact ⟨_, ⟨t, ts, c :: word, rest, ht, hts, rfl, rfl⟩, rfl⟩
      · -- the word ends here, and the character stands between it and the next token
        obtain ⟨t, ht, hstart⟩ := Option.bind_eq_some_iff.mp h
        obtain ⟨ts, hts, heq⟩ := leads_startToken hstart hleads
        rw [List.reverse_cons, List.append_assoc, List.singleton_append] at heq
        exact ⟨t :: ts, ⟨t, ts, [], c :: text, by rwa [List.append_nil], hts, rfl, rfl⟩, heq⟩
  | string read =>
      simp only [step] at h
      split_ifs at h with hquote hbackslash hcontrol
      · cases h
        refine ⟨_, ⟨[], ts', [], text, ⟨[], .nil, rfl⟩, hleads, rfl, ?_⟩, ?_⟩
        · rw [hquote, List.nil_append]
        · rw [List.append_nil, List.reverse_cons, List.append_assoc, List.singleton_append]
      · cases h
        obtain ⟨p, word, rest, hp, hrest, rfl⟩ := hleads
        rw [hbackslash]
        exact ⟨ts', hrest.append hp, rfl⟩
      · cases h
        have hp : (StringPiece.char c).IsSpelled [c] := .char hquote hbackslash (by omega)
        exact ⟨ts', RawString.Leads.append hp hleads, rfl⟩
  | escape read =>
      simp only [step] at h
      split_ifs at h with hu
      · cases h
        obtain ⟨ds, vs, rest, hds, hlength, hrest, rfl⟩ := hleads
        rw [hu]
        exact ⟨ts', ⟨_, 'u' :: ds, rest, .unit hds (by omega), hrest, rfl⟩, rfl⟩
      · obtain ⟨e, he, rfl⟩ := Option.map_eq_some_iff.mp h
        exact ⟨ts', ⟨.char e, [c], text, isSpelled_of_escaped? he, hleads, rfl⟩, rfl⟩
  | unit read value digits =>
      obtain ⟨d, hd, hs'⟩ := Option.map_eq_some_iff.mp h
      split_ifs at hs' with hdigits
      · cases hs'
        have hlength : [c].length + digits = 4 := by rw [hdigits, List.length_singleton]
        exact ⟨ts', ⟨[c], [d], text, .cons hd .nil, hlength, hleads, rfl⟩, rfl⟩
      · cases hs'
        obtain ⟨ds, vs, rest, hds, hlength, hrest, rfl⟩ := hleads
        refine ⟨ts', ⟨c :: ds, d :: vs, rest, .cons hd hds, ?_, hrest, rfl⟩, rfl⟩
        rw [List.length_cons]
        omega

lemma leads_finish? {tokens : List Token} (h : s.finish? = some tokens) :
    ∃ ts, s.mode.Leads ts [] ∧ tokens = s.finished.reverse ++ ts := by
  obtain ⟨mode, finished⟩ := s
  cases mode with
  | between =>
      cases h
      exact ⟨[], .nil, (List.append_nil _).symm⟩
  | word read =>
      obtain ⟨t, ht, rfl⟩ := Option.map_eq_some_iff.mp h
      refine ⟨[t], ⟨t, [], [], [], by rwa [List.append_nil], .nil, rfl, rfl⟩, ?_⟩
      rw [List.reverse_cons]
  | _ => cases h

/-- **The tokens that are found** in a text are tokens of that text. -/
lemma leads_foldlM {tokens : List Token} (h : (text.foldlM step s).bind finish? = some tokens) :
    ∃ ts, s.mode.Leads ts text ∧ tokens = s.finished.reverse ++ ts := by
  induction text generalizing s with
  | nil => exact leads_finish? h
  | cons c text ih =>
      rw [List.foldlM_cons] at h
      obtain ⟨last, hlast, hfinish⟩ := Option.bind_eq_some_iff.mp h
      obtain ⟨next, hnext, hrest⟩ := Option.bind_eq_some_iff.mp hlast
      obtain ⟨ts', hleads, rfl⟩ := ih (Option.bind_eq_some_iff.mpr ⟨last, hrest, hfinish⟩)
      obtain ⟨ts, hts, heq⟩ := leads_step hnext hleads
      exact ⟨ts, hts, heq.symm⟩

end Scanner

/-! ### Where tokens end -/

namespace Token

/-- Whether a token is a word: a name or a number. -/
def isWord : Token → Bool
  | null | bool _ | number _ => true
  | _ => false

lemma marks_spec : ∀ m ∈ marks,
    ofPunctuation? m.1 = some m.2 ∧ m.2.isWord = false ∧ isWordChar m.1 = false := by
  decide

variable {t : Token} {ts : List Token} {word text : List Char}

lemma ofWord?_of_isSpelled (h : t.IsSpelled word) (ht : t.isWord = true) :
    ofWord? word = some t := by
  cases h with
  | mark hmark => exact absurd ht (by rw [(marks_spec _ hmark).2.1]; decide)
  | null | true | false => rfl
  | @number n word hn =>
      have hread := RawNumber.ofWord?_eq_some_iff.mpr hn
      -- none of the names is a number
      have hname : ∀ name, RawNumber.ofWord? name = none → word ≠ name := by
        rintro _ hnone rfl
        rw [hnone] at hread
        cases hread
      rw [ofWord?, if_neg (hname _ (by decide)), if_neg (hname _ (by decide)),
        if_neg (hname _ (by decide)), hread]
      rfl
  | string => cases ht

lemma isWordChar_of_isSpelled (h : t.IsSpelled word) (ht : t.isWord = true) :
    ∀ c ∈ word, isWordChar c = true := by
  cases h with
  | mark hmark => exact absurd ht (by rw [(marks_spec _ hmark).2.1]; decide)
  | null | true | false => exact List.all_eq_true.mp rfl
  | number hn => exact hn.isWordChar
  | string => cases ht

/-- A text that goes on with no character of a word. -/
def EndsWord (rest : List Char) : Prop := ∀ c, rest.head? = some c → isWordChar c = false

/-- A token that is no word ends a word. -/
lemma endsWord_of_isSpelled (h : t.IsSpelled word) (ht : t.isWord = false) (rest : List Char) :
    EndsWord (word ++ rest) := by
  cases h with
  | mark hmark =>
      rintro _ ⟨⟩
      exact (marks_spec _ hmark).2.2
  | null | true | false | number => cases ht
  | string =>
      rintro _ ⟨⟩
      rfl

lemma AreSpelled.endsWord (h : AreSpelled ts text)
    (hts : ∀ u, ts.head? = some u → u.isWord = false) : EndsWord text := by
  cases h with
  | nil => rintro _ ⟨⟩
  | gap hc =>
      rintro _ ⟨⟩
      exact Bool.eq_false_iff.mpr fun hword =>
        absurd hc (by simp [isGap_eq_false_of_isWordChar hword])
  | cons ht => exact endsWord_of_isSpelled ht (hts _ rfl) _

/-! ### What is of the grammar is read -/

/-- The tokens of a text after some others, which are given in reverse. -/
def scanFrom? (finished : List Token) (text : List Char) : Option (List Token) :=
  (text.foldlM Scanner.step ⟨.between, finished⟩).bind Scanner.finish?

/-- White space between tokens is passed over. -/
lemma scanFrom?_gap {c : Char} (hc : isGap c = true) (finished : List Token)
    (rest : List Char) : scanFrom? finished (c :: rest) = scanFrom? finished rest := by
  rw [scanFrom?, List.foldlM_cons, Scanner.step, Scanner.startToken, if_pos hc]
  rfl

/-- A punctuation character is a token. -/
lemma scanFrom?_punctuation {c : Char} (hc : ofPunctuation? c = some t)
    (finished : List Token) (rest : List Char) :
    scanFrom? finished (c :: rest) = scanFrom? (t :: finished) rest := by
  have hstart : Scanner.startToken finished c = some ⟨.between, t :: finished⟩ := by
    unfold ofPunctuation? at hc
    split at hc <;> cases hc <;> rfl
  rw [scanFrom?, List.foldlM_cons, Scanner.step, hstart]
  rfl

/-- A word is read up to where no other character of a word follows. -/
lemma foldlM_word (cs : List Char) (hcs : ∀ c ∈ cs, isWordChar c = true) (read : List Char)
    (finished : List Token) (rest : List Char) :
    (cs ++ rest).foldlM Scanner.step ⟨.word read, finished⟩
      = rest.foldlM Scanner.step ⟨.word (cs.reverse ++ read), finished⟩ := by
  induction cs generalizing read with
  | nil => rfl
  | cons c cs ih =>
      obtain ⟨hc, hcs⟩ := List.forall_mem_cons.mp hcs
      have hstep : Scanner.step ⟨.word read, finished⟩ c = some ⟨.word (c :: read), finished⟩ := by
        rw [Scanner.step]
        exact if_pos hc
      rw [List.cons_append, List.foldlM_cons, hstep, List.reverse_cons, List.append_assoc]
      exact ih hcs (c :: read)

/-- A whole word is a token. -/
lemma scanFrom?_word (ht : ofWord? word = some t) (hword : ∀ c ∈ word, isWordChar c = true)
    (finished : List Token) {rest : List Char} (hrest : EndsWord rest) :
    scanFrom? finished (word ++ rest) = scanFrom? (t :: finished) rest := by
  cases word with
  | nil => cases ht
  | cons c cs =>
      obtain ⟨hc, hcs⟩ := List.forall_mem_cons.mp hword
      have hquote : c ≠ '"' := by
        rintro rfl
        exact absurd hc (by decide)
      have hstart : Scanner.step ⟨.between, finished⟩ c = some ⟨.word [c], finished⟩ := by
        rw [Scanner.step, Scanner.startToken, if_neg (by simp [isGap_eq_false_of_isWordChar hc]),
          if_neg hquote, if_pos hc]
      have hread : (cs.reverse ++ [c]).reverse = c :: cs := by simp
      rw [scanFrom?, List.cons_append, List.foldlM_cons, hstart]
      show ((cs ++ rest).foldlM Scanner.step ⟨.word [c], finished⟩).bind Scanner.finish? = _
      rw [foldlM_word cs hcs, scanFrom?]
      cases rest with
      | nil =>
          rw [List.foldlM_nil, List.foldlM_nil]
          show (ofWord? _).map _ = _
          rw [hread, ht]
          rfl
      | cons d rest =>
          -- the word ends here, and what follows is read as after any token
          have hstep : Scanner.step ⟨.word (cs.reverse ++ [c]), finished⟩ d
              = Scanner.step ⟨.between, t :: finished⟩ d := by
            simp only [Scanner.step, hrest d rfl, Bool.false_eq_true, if_false, hread, ht,
              Option.bind_some]
          rw [List.foldlM_cons, List.foldlM_cons, hstep]

/-- Hexadecimal digits are read to the end of a code unit. -/
lemma foldlM_hexDigits {ds : List Char} {vs : List Nat} (h : AreHexDigits ds vs)
    (read : RawString) (finished : List Token) (rest : List Char) : ∀ {value digits : Nat},
    ds ≠ [] → ds.length + digits = 4 →
    (ds ++ rest).foldlM Scanner.step ⟨.unit read value digits, finished⟩
      = rest.foldlM Scanner.step
        ⟨.string (.unit (vs.foldl (fun u v => 16 * u + v) value) :: read), finished⟩ := by
  induction h with
  | nil => exact fun hne => absurd rfl hne
  | @cons c d ds vs hd hds ih =>
      intro value digits _ hlength
      rw [List.length_cons] at hlength
      rw [List.cons_append, List.foldlM_cons]
      simp only [Scanner.step, hd, Option.map_some]
      cases ds with
      | nil =>
          cases hds
          rw [if_pos (by rw [List.length_nil] at hlength; omega)]
          rfl
      | cons c' ds =>
          rw [if_neg (by rw [List.length_cons] at hlength; omega)]
          exact ih (List.cons_ne_nil _ _) (by omega)

lemma escapes_spec : ∀ m ∈ StringPiece.escapes, escaped? m.1 = some m.2 ∧ m.1 ≠ 'u' := by decide

/-- A piece of a string is read from its text. -/
lemma foldlM_piece {p : StringPiece} (h : p.IsSpelled word) (read : RawString)
    (finished : List Token) (rest : List Char) :
    (word ++ rest).foldlM Scanner.step ⟨.string read, finished⟩
      = rest.foldlM Scanner.step ⟨.string (p :: read), finished⟩ := by
  cases h with
  | @char c hquote hbackslash hcontrol =>
      rw [List.singleton_append, List.foldlM_cons]
      simp only [Scanner.step, hquote, hbackslash, Nat.not_lt.mpr hcontrol, if_false]
      rfl
  | @escape letter c hescape =>
      obtain ⟨hletter, hu⟩ := escapes_spec _ hescape
      have hstep : Scanner.step ⟨.escape read, finished⟩ letter
          = some ⟨.string (.char c :: read), finished⟩ := by
        rw [Scanner.step]
        simp only [hu, if_false, hletter, Option.map_some]
      show (letter :: rest).foldlM Scanner.step ⟨.escape read, finished⟩ = _
      rw [List.foldlM_cons, hstep]
      rfl
  | @unit ds vs hds hlength =>
      have hne : ds ≠ [] := by
        rintro rfl
        cases hlength
      exact foldlM_hexDigits hds read finished rest hne (by rwa [Nat.add_zero])

/-- A string in quotes is a token. -/
lemma scanFrom?_string {s : RawString} {inner : List Char} (h : s.IsSpelled inner)
    (finished : List Token) (rest : List Char) :
    scanFrom? finished ('"' :: (inner ++ '"' :: rest)) = scanFrom? (string s :: finished) rest := by
  obtain ⟨texts, hs, rfl⟩ := h
  have hread : ∀ read, (texts.flatten ++ '"' :: rest).foldlM Scanner.step ⟨.string read, finished⟩
      = rest.foldlM Scanner.step ⟨.between, .string (read.reverse ++ s) :: finished⟩ := by
    induction hs with
    | nil =>
        intro read
        rw [List.append_nil]
        rfl
    | cons hp hs ih =>
        intro read
        rw [List.flatten_cons, List.append_assoc, foldlM_piece hp, ih, List.reverse_cons,
          List.append_assoc, List.singleton_append]
  show ((texts.flatten ++ '"' :: rest).foldlM Scanner.step ⟨.string [], finished⟩).bind _ = _
  rw [hread]
  rfl

/-- A token is read from its text, a word if it ends there. -/
lemma scanFrom?_isSpelled {rest : List Char} (h : t.IsSpelled word)
    (hrest : t.isWord = true → EndsWord rest) (finished : List Token) :
    scanFrom? finished (word ++ rest) = scanFrom? (t :: finished) rest := by
  by_cases ht : t.isWord = true
  · exact scanFrom?_word (ofWord?_of_isSpelled h ht) (isWordChar_of_isSpelled h ht) finished
      (hrest ht)
  · cases h with
    | mark hmark => exact scanFrom?_punctuation (marks_spec _ hmark).1 finished rest
    | null | true | false | number => exact absurd rfl ht
    | string hs =>
        rw [List.cons_append, List.append_assoc]
        exact scanFrom?_string hs finished rest

/-- No two words follow each other. -/
def AreApart (ts : List Token) : Prop :=
  ts.IsChain fun t u => t.isWord = true → u.isWord = false

/-- **The tokens of a text** are found in it if no two words follow each other. -/
lemma scanFrom?_areSpelled (h : AreSpelled ts text) (hapart : AreApart ts)
    (finished : List Token) : scanFrom? finished text = some (finished.reverse ++ ts) := by
  induction h generalizing finished with
  | nil =>
      rw [List.append_nil]
      rfl
  | gap hc _ ih => rw [scanFrom?_gap hc, ih hapart]
  | cons ht hts ih =>
      obtain ⟨hnext, hrest⟩ := List.isChain_cons.mp hapart
      rw [scanFrom?_isSpelled ht fun hword => hts.endsWord fun u hu => hnext u hu hword, ih hrest,
        List.reverse_cons, List.append_assoc, List.singleton_append]

namespace AreApart

lemma cons (ht : t.isWord = false) (h : AreApart ts) : AreApart (t :: ts) :=
  List.isChain_cons.mpr ⟨fun _ _ hword => absurd hword (by simp [ht]), h⟩

lemma append {us : List Token} (hts : AreApart ts) (hus : AreApart us)
    (hhead : ∀ u, us.head? = some u → u.isWord = false) : AreApart (ts ++ us) :=
  List.isChain_append.mpr ⟨hts, hus, fun _ _ u hu _ => hhead u hu⟩

end AreApart

end Token

namespace Document

open Token

/-- The rest of an array starts with no word. -/
lemma isWord_head?_itemTokens (ds : List Document) (t : Token)
    (h : (itemTokens ds).head? = some t) : t.isWord = false := by
  cases ds <;> cases h <;> rfl

/-- Neither does that of an object. -/
lemma isWord_head?_memberTokens (ms : List (RawString × Document)) (t : Token)
    (h : (memberTokens ms).head? = some t) : t.isWord = false := by
  cases ms <;> cases h <;> rfl

lemma areApart_itemTokens {ds : List Document} (h : ∀ d ∈ ds, AreApart d.tokens) :
    AreApart (itemTokens ds) := by
  induction ds with
  | nil => exact .singleton _
  | cons d ds ih =>
      obtain ⟨hd, hds⟩ := List.forall_mem_cons.mp h
      exact .cons rfl (hd.append (ih hds) (isWord_head?_itemTokens ds))

lemma areApart_memberTokens {ms : List (RawString × Document)}
    (h : ∀ m ∈ ms, AreApart m.2.tokens) : AreApart (memberTokens ms) := by
  induction ms with
  | nil => exact .singleton _
  | cons m ms ih =>
      obtain ⟨hm, hms⟩ := List.forall_mem_cons.mp h
      exact .cons rfl (.cons rfl (.cons rfl (hm.append (ih hms) (isWord_head?_memberTokens ms))))

/-- In a document no two words follow each other. -/
lemma areApart_tokens (d : Document) : AreApart d.tokens := by
  induction d using ind with
  | null | bool | number | string => exact .singleton _
  | array ds ih =>
      cases ds with
      | nil => exact .cons rfl (.singleton _)
      | cons d ds =>
          obtain ⟨hd, hds⟩ := List.forall_mem_cons.mp ih
          exact .cons rfl (hd.append (areApart_itemTokens hds) (isWord_head?_itemTokens ds))
  | object ms ih =>
      cases ms with
      | nil => exact .cons rfl (.singleton _)
      | cons m ms =>
          obtain ⟨hm, hms⟩ := List.forall_mem_cons.mp ih
          exact .cons rfl (.cons rfl (.cons rfl
            (hm.append (areApart_memberTokens hms) (isWord_head?_memberTokens ms))))

/-- **The texts that are read** are those of the grammar, each as its document. -/
theorem read?_eq_some_iff {text : String} {d : Document} :
    read? text = some d ↔ d.IsSpelled text := by
  rw [read?, Option.bind_eq_some_iff]
  constructor
  · rintro ⟨ts, hscan, htokens⟩
    obtain ⟨_, hleads, rfl⟩ := Scanner.leads_foldlM hscan
    rw [IsSpelled, ofTokens?_eq_some_iff.mp htokens]
    exact hleads
  · intro h
    exact ⟨d.tokens, scanFrom?_areSpelled h d.areApart_tokens [], d.ofTokens?_tokens⟩

end Document

end EventQuery
