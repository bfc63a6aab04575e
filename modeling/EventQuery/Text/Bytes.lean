/-!
Texts as bytes.

A text has one form as bytes (`utf8`). Bytes that were not made from a text may
still hold characters: `symbols` finds these and leaves the bytes between them as
they are.
-/

namespace EventQuery

/-- The bytes of a text. -/
def utf8 (s : String) : List UInt8 := s.toList.flatMap String.utf8EncodeChar

/-- A character, or a byte that is part of none. -/
inductive Symbol where
  | char (value : Char)
  | stray (value : UInt8)
deriving Repr, DecidableEq

/-- The character that bytes begin with, if they begin with one. -/
def leadingChar? (bytes : List UInt8) : Option Char :=
  (bytes.take 4).toByteArray.utf8DecodeChar? 0

/-- Bytes as characters and stray bytes. -/
def symbols : List UInt8 → List Symbol
  | [] => []
  | b :: rest => match leadingChar? (b :: rest) with
    | some c => .char c :: symbols (rest.drop (c.utf8Size - 1))
    | none => .stray b :: symbols rest
termination_by bytes => bytes.length
decreasing_by
  · rw [List.length_drop, List.length_cons]
    omega
  · exact Nat.lt_succ_self _

/-- A text without the byte-order mark that may stand in front of it. -/
def withoutMark (s : String) : String :=
  match s.toList with
  | '\ufeff' :: rest => String.ofList rest
  | _ => s

end EventQuery
