import EventQuery.Double.Decimal

/-!
Doubles as text.

* `Finite.text` writes the fewest digits that read back, laid out by a
  `NumberLayout`: positional between two orders of magnitude, with an exponent
  outside them.
* `NumberLiteral.read?` reads a written number, or the name of one that has no
  digits.
-/

namespace EventQuery

/-- The decimal digits of a natural number. -/
def decimalDigits (n : Nat) : List Char := Nat.toDigits 10 n

/-- The decimal digits of a natural number, with zeros in front up to a
width. -/
def paddedDigits (width n : Nat) : List Char :=
  let ds := decimalDigits n
  List.replicate (width - ds.length) '0' ++ ds

/-- An integer with its sign, if it is negative. -/
def integerText (n : Int) : String :=
  String.ofList ((if n < 0 then ['-'] else []) ++ decimalDigits n.natAbs)

/-! ### Writing -/

/-- How numbers with a fraction are laid out. -/
structure NumberLayout where
  /-- The least order of magnitude written without an exponent. -/
  positionalFrom : Int
  /-- The least order of magnitude above that written with one again. -/
  positionalBelow : Int

/-- Numbers are written without an exponent from `0.00001` up to below
`10 ^ 16`. -/
def NumberLayout.wire : NumberLayout := ⟨-5, 16⟩

/-- Digits with a point after the first `whole` of them; at least one digit
stands on each side. -/
def pointed (digits : List Char) (whole : Int) : List Char :=
  if whole ≤ 0 then
    '0' :: '.' :: (List.replicate (-whole).toNat '0' ++ digits)
  else
    let front := digits.take whole.toNat
    let back := digits.drop whole.toNat
    front ++ List.replicate (whole.toNat - front.length) '0' ++
      '.' :: (if back = [] then ['0'] else back)

/-- Digits in scientific form: a point after the first digit only if more
follow, and an exponent with its sign. -/
def scientific (digits : List Char) (order : Int) : List Char :=
  let mantissa := match digits with
    | [] => ['0']
    | [d] => [d]
    | d :: rest => d :: '.' :: rest
  mantissa ++ 'e' :: (if order < 0 then '-' else '+') :: decimalDigits order.natAbs

/-- A decimal laid out. -/
def Decimal.layOut (layout : NumberLayout) (d : Decimal) : List Char :=
  let digits := decimalDigits d.digits
  let order := d.order
  if layout.positionalFrom ≤ order ∧ order < layout.positionalBelow then
    pointed digits (order + 1)
  else scientific digits order

namespace Finite

/-- The text of a finite double: its sign, then the fewest digits that read
back. Zero is `0.0`. -/
def text (x : Finite) : String :=
  let magnitude :=
    if x.isZero then ['0', '.', '0'] else x.shortest.layOut .wire
  String.ofList ((if x.negative then ['-'] else []) ++ magnitude)

end Finite

/-! ### Reading -/

/-- The value of a list of digits. -/
def digitsValue (ds : List Char) : Nat :=
  ds.foldl (fun n c => 10 * n + (c.toNat - '0'.toNat)) 0

/-- A leading sign, read as whether it is a minus, and what follows. -/
def readSign : List Char → Bool × List Char
  | '-' :: rest => (true, rest)
  | '+' :: rest => (false, rest)
  | cs => (false, cs)

/-- A written number: a finite decimal with its sign, or the name of another
number. -/
inductive NumberLiteral where
  | named (value : NonFinite)
  | decimal (negative : Bool) (value : Decimal)
deriving Repr, DecidableEq

namespace NumberLiteral

/-- The exponent part of a number: nothing, or the letter `e`, an optional sign
and at least one digit. -/
def readExponent? : List Char → Option Int
  | [] => some 0
  | c :: rest =>
    if c = 'e' ∨ c = 'E' then
      let (negative, ds) := readSign rest
      if ds ≠ [] ∧ ds.all Char.isDigit then
        some (if negative then -(digitsValue ds : Int) else digitsValue ds)
      else none
    else none

/-- The fraction digits after a point, and what follows; without a point there
are none. -/
def readFraction : List Char → List Char × List Char
  | '.' :: rest => rest.span Char.isDigit
  | cs => ([], cs)

/-- An unsigned decimal: digits with an optional point among or beside them,
and an optional exponent. -/
def readDecimal? (cs : List Char) : Option Decimal :=
  let (whole, rest) := cs.span Char.isDigit
  let (fraction, rest) := readFraction rest
  if whole = [] ∧ fraction = [] then none
  else (readExponent? rest).map fun e =>
    ⟨digitsValue (whole ++ fraction), e - fraction.length⟩

/-- A number with an optional sign, or one of the names `inf`, `infinity` and
`nan` in any case. -/
def read? (s : String) : Option NumberLiteral :=
  let (negative, rest) := readSign s.toList
  let word := String.ofList (rest.map Char.toLower)
  if word = "nan" then some (.named .nan)
  else if word = "inf" ∨ word = "infinity" then some (.named (.infinity negative))
  else (readDecimal? rest).map (.decimal negative)

/-- The double nearest to a written number. -/
def toDouble : NumberLiteral → Double
  | named value => .nonFinite value
  | decimal negative value => .ofDecimal negative value

/-- The single-precision number nearest to a written number, as a double. -/
def toSingle : NumberLiteral → Double
  | named value => .nonFinite value
  | decimal negative value => .ofDecimalSingle negative value

end NumberLiteral

/-- An integer with an optional sign and at least one digit. -/
def readInteger? (s : String) : Option Int :=
  let (negative, ds) := readSign s.toList
  if ds ≠ [] ∧ ds.all Char.isDigit then
    some (if negative then -(digitsValue ds : Int) else digitsValue ds)
  else none

end EventQuery
