import EventQuery.Text.Hex

/-!
Tables of characters.

A table is lines of rows between blanks, and a row has hexadecimal numbers
between commas: the distance from the end of the row before, the length of the
range less one, and the payload of the range.
-/

namespace EventQuery

/-- A range of characters, by their numbers, and what belongs to it. -/
structure CharRow where
  first : Nat
  last : Nat
  payload : List Nat
deriving Repr, DecidableEq

/-- A table that is being read: rows in reverse, the numbers of the next row in
reverse, and the number that is being read. -/
structure TableReader where
  rows : List CharRow
  numbers : List Nat
  current : Nat
deriving Repr

namespace TableReader

/-- Ends a row. -/
def endRow (r : TableReader) : TableReader :=
  match (r.current :: r.numbers).reverse with
  | distance :: length :: payload =>
    let before := match r.rows with
      | row :: _ => row.last
      | [] => 0
    ⟨⟨before + distance, before + distance + length, payload⟩ :: r.rows, [], 0⟩
  | _ => ⟨r.rows, [], 0⟩

/-- One more character. -/
def step (r : TableReader) (c : Char) : TableReader :=
  if c = ' ' then r.endRow
  else if c = ',' then { r with numbers := r.current :: r.numbers, current := 0 }
  else { r with current := 16 * r.current + (hexDigitValue? c).getD 0 }

end TableReader

/-- The rows of a table. -/
def readTable (lines : List String) : List CharRow :=
  (lines.foldl (fun r (line : String) => (line.toList.foldl TableReader.step r).endRow)
    ⟨[], [], 0⟩).rows.reverse

/-- The row of a character. -/
def rowOf? (rows : List CharRow) (c : Char) : Option CharRow :=
  rows.find? fun r => r.first ≤ c.toNat && c.toNat ≤ r.last

/-- Whether a character has a row. -/
def hasRow (rows : List CharRow) (c : Char) : Bool := (rowOf? rows c).isSome

/-- The class of a character: the payload of its row, or `0`. -/
def classOf (rows : List CharRow) (c : Char) : Nat :=
  match rowOf? rows c with
  | some ⟨_, _, [k]⟩ => k
  | _ => 0

end EventQuery
