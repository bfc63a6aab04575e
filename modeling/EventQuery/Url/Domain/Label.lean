import EventQuery.Url.Domain.Mapping
import EventQuery.Url.Domain.Normal
import EventQuery.Url.Domain.Punycode

/-!
Labels of domain names: which are allowed.

A label does not start with a mark, joins characters only where the script asks
for it, does not mix directions of writing, and is not too long to be written in
ASCII. Labels that start with `xn--` are the ASCII forms of others.
-/

namespace EventQuery

namespace DomainLabel

/-! ### Marks and joiners -/

/-- The marks that belong to the character before them. -/
def markRows : List CharRow := readTable combiningMarks

/-- The characters that join others. -/
def joiningRows : List CharRow := readTable joiningTypes

/-- Whether a label starts with a mark. -/
def startsWithMark (label : List Char) : Bool :=
  match label with
  | c :: _ => 0x80 ≤ c.toNat && hasRow markRows c
  | [] => false

/-- Whether the first character that does not let a join pass has one of these
joining types. -/
def joins (types : List Nat) (cs : List Char) : Bool :=
  match cs.dropWhile fun c => classOf joiningRows c == 4 with
  | c :: _ => types.contains (classOf joiningRows c)
  | [] => false

/-- Whether both joiners stand only where they may: after a mark that suppresses
a vowel, and the one that keeps letters apart also between letters that would
join. `before` is given in reverse. -/
def joinersAllowed (before : List Char) : List Char → Bool
  | [] => true
  | c :: rest =>
    let afterVirama := match before with
      | d :: _ => combiningClass d == 9
      | [] => false
    let allowed :=
      if c = '\u200d' then afterVirama
      else if c = '\u200c' then afterVirama || (joins [1, 2] before && joins [2, 3] rest)
      else true
    allowed && joinersAllowed (c :: before) rest

/-! ### Directions -/

/-- The characters that are not simply written from left to right. -/
def directionRows : List CharRow := readTable directions

/-- The direction class of a character: `0` for letters that are written from left
to right. -/
def direction (c : Char) : Nat := classOf directionRows c

/-- Whether a label holds a character that is written from right to left. -/
def hasRightToLeft (label : List Char) : Bool :=
  label.any fun c => direction c == 1 || direction c == 2

/-- The last direction class that is not that of a mark. -/
def lastDirection (label : List Char) : Nat :=
  match (label.map direction).reverse.dropWhile (· == 5) with
  | d :: _ => d
  | [] => 6

/-- Whether a label keeps to one direction. -/
def directionAllowed (label : List Char) : Bool :=
  let ds := label.map direction
  match ds with
  | [] => true
  | 0 :: _ => ds.all [0, 3, 4, 5].contains && [0, 3].contains (lastDirection label)
  | 1 :: _ =>
    ds.all [1, 2, 3, 4, 5].contains && [1, 2, 3].contains (lastDirection label) &&
      !(ds.contains 2 && ds.contains 3)
  | _ => false

/-! ### Forms -/

/-- Whether a label is ASCII. -/
def isAscii (label : List Char) : Bool := label.all fun c => c.toNat < 0x80

/-- The most characters of a label that is not ASCII. -/
def maxLength : Nat := 1000

/-- The most characters of an ASCII form after its mark. -/
def maxAsciiLength : Nat := 2000

/-- Whether a label can be written in ASCII: as it is, or because it is not too
long. -/
def lengthAllowed (label : List Char) : Bool := isAscii label || label.length ≤ maxLength

/-- Whether a label is allowed, directions apart. -/
def isAllowed (label : List Char) : Bool :=
  lengthAllowed label && !startsWithMark label && joinersAllowed [] label

/-- The label in its own characters: that of an ASCII form has to be one that
would be written so. -/
def read? (label : List Char) : Option (List Char) :=
  match label with
  | 'x' :: 'n' :: '-' :: '-' :: ascii =>
    if maxAsciiLength < ascii.length then none
    else
      (Punycode.decode? ascii).bind fun decoded =>
        if isAscii decoded then none
        else if decoded.all isPlain && composedForm decoded == decoded && isAllowed decoded then
          some decoded
        else none
  | _ => if isAllowed label then some label else none

/-- The label in ASCII. -/
def toAscii (label : List Char) : List Char :=
  if isAscii label then label
  else 'x' :: 'n' :: '-' :: '-' :: Punycode.encode label

end DomainLabel

end EventQuery
