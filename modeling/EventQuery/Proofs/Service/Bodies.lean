import EventQuery.Service.Network
import Mathlib.Data.List.TakeDrop
import Mathlib.Tactic.Lemma

/-!
Bodies of answers.

The body of an answer is bytes. JSON is read from the bytes as they are, and a text is made of
them by what the headers say. That is left to what carries the requests, so it is a parameter
here: a way of decoding, of which nothing is known but what it does where no character set is
declared.

* `symbols_utf8`: the characters of a text are found again in its bytes;
  `Document.readBytes?_utf8`: so it is read as JSON from its bytes.
* `TextDecoder`, `TextDecoder.IsUsual`: a way of decoding bytes, and what it has to do;
  `TextDecoder.lossy`: one that knows a single character set.
* `Answer.IsDecodedBy`: the text of a body was made in this way; `Answer.IsDecodedBy.text_eq_decode`,
  `Answer.IsDecodedBy.text_eq_withoutMark`: what the text then is.
-/

namespace EventQuery

/-! ### Characters in bytes -/

lemma leadingChar?_append (c : Char) (bytes : List UInt8) :
    leadingChar? (String.utf8EncodeChar c ++ bytes) = some c := by
  have hlength : (String.utf8EncodeChar c).length ≤ 4 := by
    rw [String.length_utf8EncodeChar]
    exact c.utf8Size_le_four
  rw [leadingChar?, List.take_append, List.take_of_length_le hlength, List.toByteArray_append,
    ByteArray.utf8DecodeChar?_utf8EncodeChar_append]

lemma symbols_append (c : Char) (bytes : List UInt8) :
    symbols (String.utf8EncodeChar c ++ bytes) = .char c :: symbols bytes := by
  have hlength := String.length_utf8EncodeChar c
  have hlead := leadingChar?_append c bytes
  obtain ⟨b, more, hbytes⟩ : ∃ b more, String.utf8EncodeChar c = b :: more := by
    refine List.exists_cons_of_length_pos ?_
    rw [hlength]
    exact c.utf8Size_pos
  rw [hbytes, List.length_cons] at hlength
  rw [hbytes, List.cons_append] at hlead ⊢
  have hrest : (more ++ bytes).drop (c.utf8Size - 1) = bytes :=
    List.drop_left' (by omega)
  rw [symbols, hlead]
  simp only [hrest]

/-- The characters of a text are found again in its bytes. -/
lemma symbols_utf8 (s : String) : symbols (utf8 s) = s.toList.map .char := by
  rw [utf8]
  induction s.toList with
  | nil => rw [List.flatMap_nil, symbols, List.map_nil]
  | cons c cs ih => rw [List.flatMap_cons, symbols_append, ih, List.map_cons]

lemma utf8_inj {s t : String} : utf8 s = utf8 t ↔ s = t := by
  refine ⟨fun h => ?_, fun h => h ▸ rfl⟩
  have hsymbols := congrArg symbols h
  rw [symbols_utf8, symbols_utf8] at hsymbols
  exact String.toList_inj.mp ((List.map_inj_right fun _ _ => Symbol.char.inj).mp hsymbols)

/-- A text is read as JSON from its bytes. -/
lemma Document.readBytes?_utf8 (s : String) : readBytes? (utf8 s) = read? s := by
  rw [readBytes?, read?, Token.scanBytes?, Token.scan?, symbols_utf8, List.foldlM_map]
  rfl

namespace Answer

variable {α : Type} {a : Answer} {read : Document → Option α} {v : α}

/-- A body that is a text says what the text says. -/
lemma decode_eq_ok {s : String} (h : a.bytes? = some (utf8 s))
    (hread : (Document.read? s).bind read = some v) : a.decode read = .ok v := by
  rw [decode, h, Option.bind_some, Document.readBytes?_utf8, hread]

end Answer

/-! ### Ways of decoding -/

/-- A way to make a text of bytes, by the type that is declared for them. -/
def TextDecoder : Type := Option String → List UInt8 → String

/-- What each such way has to do: bytes are taken for UTF-8 unless the type that is declared for
them has a parameter, and a byte-order mark in front is no part of the text. -/
def TextDecoder.IsUsual (decode : TextDecoder) : Prop :=
  ∀ type, (∀ t, type = some t → ';' ∉ t.toList) → ∀ s, decode type (utf8 s) = withoutMark s

/-- The way of decoding that takes all bytes for UTF-8, and stray ones for nothing that can be
told. -/
def TextDecoder.lossy : TextDecoder := fun _ bytes =>
  withoutMark (String.ofList ((symbols bytes).map fun
    | .char c => c
    | .stray _ => '\ufffd'))

lemma TextDecoder.isUsual_lossy : TextDecoder.lossy.IsUsual := by
  intro type _ s
  rw [lossy, symbols_utf8, List.map_map]
  exact congrArg withoutMark ((congrArg String.ofList (List.map_id _)).trans String.ofList_toList)

namespace Answer

variable {a : Answer} {decode : TextDecoder}

/-- The text of the body was made in this way. -/
def IsDecodedBy (a : Answer) (decode : TextDecoder) : Prop :=
  ∀ bytes text, a.body = .whole bytes text → text = decode (a.header? "content-type") bytes

/-- A body that could not be read is the empty text. -/
lemma text_of_bytes?_eq_none (h : a.bytes? = none) : a.text = "" := by
  rw [bytes?] at h
  rw [text]
  split
  · rfl
  · rename_i hstatus
    rw [if_neg hstatus] at h
    cases hbody : a.body with
    | whole bytes text =>
        rw [hbody] at h
        cases h
    | brokenOff => rfl

lemma IsDecodedBy.text_eq_decode_or (h : a.IsDecodedBy decode) {bytes : List UInt8}
    (hbytes : a.bytes? = some bytes) :
    a.text = decode (a.header? "content-type") bytes ∨ (bytes = [] ∧ a.text = "") := by
  rw [bytes?] at hbytes
  rw [text]
  split
  · rename_i hstatus
    rw [if_pos hstatus] at hbytes
    exact .inr ⟨(Option.some.inj hbytes).symm, rfl⟩
  · rename_i hstatus
    rw [if_neg hstatus] at hbytes
    cases hbody : a.body with
    | whole given text =>
        rw [hbody] at hbytes
        obtain rfl := Option.some.inj hbytes
        exact .inl (h given text hbody)
    | brokenOff =>
        rw [hbody] at hbytes
        cases hbytes

/-- The bytes of a body are decoded by the type that the headers declare. -/
lemma IsDecodedBy.text_eq_decode (h : a.IsDecodedBy decode) {bytes : List UInt8}
    (hbytes : a.bytes? = some bytes) (hne : bytes ≠ []) :
    a.text = decode (a.header? "content-type") bytes :=
  (h.text_eq_decode_or hbytes).resolve_right fun hempty => hne hempty.1

/-- **The text of a body is the text that was sent**, without a byte-order mark, if nothing else
is declared. -/
lemma IsDecodedBy.text_eq_withoutMark (h : a.IsDecodedBy decode) (hdecode : decode.IsUsual)
    (htype : ∀ t, a.header? "content-type" = some t → ';' ∉ t.toList) {s : String}
    (hbytes : a.bytes? = some (utf8 s)) : a.text = withoutMark s := by
  rcases h.text_eq_decode_or hbytes with htext | ⟨hempty, htext⟩
  · rw [htext, hdecode _ htype s]
  · obtain rfl : s = "" := utf8_inj.mp hempty
    exact htext

end Answer

end EventQuery
