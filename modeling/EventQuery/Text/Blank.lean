/-!
White space: the characters with the Unicode property of that name, and their
removal from the ends of a text.
-/

namespace EventQuery

/-- Whether a character is white space. -/
def isBlank (c : Char) : Bool :=
  let n := c.toNat
  (0x9 ≤ n && n ≤ 0xd) || n == 0x20 || n == 0x85 || n == 0xa0 || n == 0x1680 ||
    (0x2000 ≤ n && n ≤ 0x200a) || n == 0x2028 || n == 0x2029 || n == 0x202f ||
    n == 0x205f || n == 0x3000

/-- Removes white space at the start. -/
def trimStart (cs : List Char) : List Char := cs.dropWhile isBlank

end EventQuery
