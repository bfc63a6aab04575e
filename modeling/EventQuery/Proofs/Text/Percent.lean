import EventQuery.Text.Percent
import Mathlib.Data.List.Flatten
import Mathlib.Tactic.Lemma

/-!
Percent encoding read back.

* `percentDecode_percentEncode`: whatever else is written as bytes, a text comes
  back as its bytes if percent signs are.
* `textOfBytes?_utf8`: and its bytes come back as the text.
* `mem_percentEncode`: the characters of an encoded text are the ones that are
  kept, percent signs and digits.
-/

namespace EventQuery

/-! ### Bytes -/

/-- The digit of a number below sixteen has that value. -/
lemma hexDigitValue?_upperHexDigit {n : Nat} (h : n < 16) :
    hexDigitValue? (upperHexDigit n) = some n := by
  have hall : ∀ m : Fin 16, hexDigitValue? (upperHexDigit m) = some m.val := by decide
  exact hall ⟨n, h⟩

/-- The two digits of a byte name it. -/
lemma hexByte?_digits (b : UInt8) :
    hexByte? (upperHexDigit (b.toNat / 16)) (upperHexDigit (b.toNat % 16)) = some b := by
  have hb : b.toNat < 256 := b.toNat_lt
  rw [hexByte?, hexDigitValue?_upperHexDigit (by omega), hexDigitValue?_upperHexDigit (by omega)]
  have hsum : 16 * (b.toNat / 16) + b.toNat % 16 = b.toNat := Nat.div_add_mod _ _
  simp only [hsum, UInt8.ofNat_toNat]

/-- A byte that is written with a percent sign comes back. -/
lemma percentDecode_percentByte (b : UInt8) (rest : List Char) :
    percentDecode (percentByte b ++ rest) = b :: percentDecode rest := by
  simp only [percentByte, List.cons_append, List.nil_append, percentDecode, hexByte?_digits]

lemma percentDecode_percentBytes (bytes : List UInt8) (rest : List Char) :
    percentDecode (bytes.flatMap percentByte ++ rest) = bytes ++ percentDecode rest := by
  induction bytes with
  | nil => rfl
  | cons b bytes ih =>
      rw [List.flatMap_cons, List.append_assoc, percentDecode_percentByte, ih, List.cons_append]

/-! ### Texts -/

/-- A character other than a percent sign stands for itself. -/
lemma percentDecode_cons {c : Char} (hc : c ≠ '%') (rest : List Char) :
    percentDecode (c :: rest) = String.utf8EncodeChar c ++ percentDecode rest := by
  rw [percentDecode]
  rintro high low more rfl -
  exact hc rfl

/-- **An encoded text comes back as its bytes** if percent signs are encoded. -/
lemma percentDecode_percentEncode {escaped : Char → Bool} (hpercent : escaped '%' = true)
    (cs : List Char) :
    percentDecode (percentEncode escaped cs) = cs.flatMap String.utf8EncodeChar := by
  induction cs with
  | nil => rfl
  | cons c cs ih =>
      rw [percentEncode, List.flatMap_cons, ← percentEncode, List.flatMap_cons]
      by_cases hc : escaped c = true
      · rw [if_pos hc, percentChar, percentDecode_percentBytes, ih]
      · have hne : c ≠ '%' := by
          rintro rfl
          exact hc hpercent
        rw [if_neg hc, List.singleton_append, percentDecode_cons hne, ih]

/-- The bytes of a text are read as that text. -/
lemma textOfBytes?_utf8 (s : String) :
    textOfBytes? (s.toList.flatMap String.utf8EncodeChar) = some s := by
  have hbytes : (s.toList.flatMap String.utf8EncodeChar).toByteArray = s.toByteArray :=
    String.utf8Encode_toList
  rw [textOfBytes?, hbytes, String.fromUTF8?, dif_pos s.isValidUTF8]
  rfl

/-- What an encoded text is made of. -/
lemma mem_percentEncode {escaped : Char → Bool} {cs : List Char} {c : Char}
    (h : c ∈ percentEncode escaped cs) :
    (c ∈ cs ∧ escaped c = false) ∨ c = '%' ∨ ∃ n : Fin 16, c = upperHexDigit n := by
  obtain ⟨d, hd, hc⟩ := List.mem_flatMap.mp h
  split at hc
  · obtain ⟨b, -, hb⟩ := List.mem_flatMap.mp hc
    have hlt : b.toNat < 256 := b.toNat_lt
    simp only [percentByte, List.mem_cons, List.not_mem_nil, or_false] at hb
    rcases hb with rfl | rfl | rfl
    · exact .inr (.inl rfl)
    · exact .inr (.inr ⟨⟨b.toNat / 16, by omega⟩, rfl⟩)
    · exact .inr (.inr ⟨⟨b.toNat % 16, by omega⟩, rfl⟩)
  · rename_i hkept
    obtain rfl := List.mem_singleton.mp hc
    exact .inl ⟨hd, Bool.eq_false_iff.mpr hkept⟩

/-! ### Forms -/

/-- Letters and digits are written in a form as they are. -/
lemma flatMap_formChar {cs : List Char} (h : ∀ c ∈ cs, c.isAlphanum = true) :
    cs.flatMap formChar = cs := by
  induction cs with
  | nil => rfl
  | cons c cs ih =>
      obtain ⟨hc, hcs⟩ := List.forall_mem_cons.mp h
      rw [List.flatMap_cons, ih hcs, formChar, if_pos (by rw [hc, Bool.true_or]),
        List.singleton_append]

end EventQuery
