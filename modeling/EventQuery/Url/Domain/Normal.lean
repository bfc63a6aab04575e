import EventQuery.Url.Domain.ClassTable
import EventQuery.Url.Domain.Table

/-!
The composed form of a text: marks in their canonical order, and every character
that can be composed with the one before it composed.
-/

namespace EventQuery

/-- The marks that may be reordered. -/
def classRows : List CharRow := readTable combiningClasses

/-- The characters that are composed of two. -/
def compositeRows : List CharRow := readTable composites

/-- The class of a mark; other characters have class `0`. -/
def combiningClass (c : Char) : Nat := if c.toNat < 0x300 then 0 else classOf classRows c

/-! ### Taking apart -/

/-- A Korean syllable as its letters. -/
def syllableParts (n : Nat) : List Char :=
  let i := n - 0xAC00
  let front := [Char.ofNat (0x1100 + i / 588), Char.ofNat (0x1161 + i % 588 / 28)]
  if i % 28 = 0 then front else front ++ [Char.ofNat (0x11A7 + i % 28)]

/-- Whether a number is that of a Korean syllable. -/
def isSyllable (n : Nat) : Bool := 0xAC00 ≤ n && n < 0xD7A4

/-- A character as the characters it is composed of, taken apart at most `depth`
times. -/
def decompose : Nat → Char → List Char
  | 0, c => [c]
  | depth + 1, c =>
    if c.toNat < 0xC0 then [c]
    else if isSyllable c.toNat then syllableParts c.toNat
    else match rowOf? compositeRows c with
      | some ⟨_, _, [a, b]⟩ => decompose depth (Char.ofNat a) ++ [Char.ofNat b]
      | _ => [c]

/-! ### Order of marks -/

/-- Puts a mark behind the marks of no greater class. -/
def insertMark (c : Char) : List Char → List Char
  | [] => [c]
  | d :: rest =>
    if combiningClass d ≤ combiningClass c then d :: insertMark c rest else c :: d :: rest

/-- The text with each run of marks in order of their classes; `marks` is the run
so far. -/
def orderMarks (marks : List Char) : List Char → List Char
  | [] => marks
  | c :: rest =>
    if combiningClass c = 0 then marks ++ c :: orderMarks [] rest
    else orderMarks (insertMark c marks) rest

/-! ### Putting together -/

/-- The character composed of two, if there is one. -/
def composePair? (a b : Char) : Option Char :=
  let x := a.toNat
  let y := b.toNat
  if 0x1100 ≤ x ∧ x < 0x1113 ∧ 0x1161 ≤ y ∧ y < 0x1176 then
    some (Char.ofNat (0xAC00 + ((x - 0x1100) * 21 + (y - 0x1161)) * 28))
  else if isSyllable x ∧ (x - 0xAC00) % 28 = 0 ∧ 0x11A7 < y ∧ y < 0x11C3 then
    some (Char.ofNat (x + (y - 0x11A7)))
  else (compositeRows.find? fun r => r.payload == [x, y]).map fun r => Char.ofNat r.first

/-- Composes the characters of a text. `starter` is the last character of class
`0`, and `passed` are the marks after it that did not compose, in reverse. -/
def composeAfter (starter : Char) (passed : List Char) : List Char → List Char
  | [] => starter :: passed.reverse
  | c :: rest =>
    let blocked := match passed with
      | [] => false
      | last :: _ => combiningClass c ≤ combiningClass last
    match (if blocked then none else composePair? starter c) with
    | some composed => composeAfter composed passed rest
    | none =>
      if combiningClass c = 0 then starter :: (passed.reverse ++ composeAfter c [] rest)
      else composeAfter starter (c :: passed) rest

/-- Composes a text from its first character of class `0` on. -/
def compose : List Char → List Char
  | [] => []
  | c :: rest => if combiningClass c = 0 then composeAfter c [] rest else c :: compose rest

/-- The composed form of a text. -/
def composedForm (cs : List Char) : List Char :=
  if cs.all fun c => c.toNat < 0x80 then cs
  else compose (orderMarks [] (cs.flatMap (decompose 4)))

end EventQuery
