import EventQuery.Double.Text
import EventQuery.Json.Basic

/-!
The numbers of a JSON text.

A number is read in two steps. `RawNumber.ofWord?` takes a word apart, and
`RawNumber.value?` is the value that the parts stand for. Integers keep their
value as far as they fit 64 bits. Any other number is a double: the leading
digits that fit 64 bits, rounded (`RawNumber.leading`), and then scaled by a
power of ten, which rounds again (`Finite.scaled?`). So the double read may be a
neighbour of the one that is nearest to what was written.
-/

namespace EventQuery

/-! ### Numbers as they were written -/

/-- A number as it was written: the digits before the point and after it, and
the exponent, as far as they are there. -/
structure RawNumber where
  negative : Bool
  whole : List Char
  fraction : List Char
  exponent : Option Int
deriving Repr, DecidableEq

namespace RawNumber

/-- Whether digits are free of a zero in front of others. -/
def plainWhole : List Char → Bool
  | [] => false
  | ['0'] => true
  | c :: _ => c != '0'

/-- The exponent after a number, if nothing else follows it. -/
def ofRest? (negative : Bool) (whole fraction : List Char) : List Char → Option RawNumber
  | [] => some ⟨negative, whole, fraction, none⟩
  | rest => (NumberLiteral.readExponent? rest).map fun e => ⟨negative, whole, fraction, some e⟩

/-- A number: an optional minus, digits without a leading zero, an optional
fraction and an optional exponent. -/
def ofWord? (word : List Char) : Option RawNumber :=
  let (negative, rest) : Bool × List Char := match word with
    | '-' :: rest => (true, rest)
    | _ => (false, word)
  let (whole, rest) := rest.span Char.isDigit
  if !plainWhole whole then none
  else match rest with
    | '.' :: rest =>
      let (fraction, rest) := rest.span Char.isDigit
      if fraction = [] then none else ofRest? negative whole fraction rest
    | rest => ofRest? negative whole [] rest

/-! ### What they stand for -/

/-- Whether a number has neither a fraction nor an exponent. -/
def isIntegral (n : RawNumber) : Bool := n.fraction.isEmpty && n.exponent.isNone

/-- Appends digits to a number up to the first one with which it would not fit
64 bits; that digit and the following ones are left. -/
def appendDigits (n : Nat) : List Char → Nat × List Char
  | [] => (n, [])
  | c :: rest =>
    let next := 10 * n + (c.toNat - '0'.toNat)
    if 18446744073709551616 ≤ next then (n, c :: rest) else appendDigits next rest

/-- The digits that count. Those before the point that do not fit 64 bits still
count as places, and those after it do not count at all. -/
def leading (n : RawNumber) : Decimal :=
  let (front, places) := appendDigits 0 n.whole
  let (digits, ignored) := appendDigits front n.fraction
  ⟨digits, n.exponent.getD 0 + places.length - (n.fraction.length - ignored.length : Nat)⟩

/-- The integer value of the digits before the point. -/
def wholeValue (n : RawNumber) : Int :=
  if n.negative then -(digitsValue n.whole : Int) else digitsValue n.whole

/-- Whether a number is read as an integer: minus zero is not, and neither is
what lies outside `-2 ^ 63` to `2 ^ 64 - 1`. -/
def isInteger (n : RawNumber) : Bool :=
  n.isIntegral && !(n.negative && n.wholeValue == 0) &&
    decide (-9223372036854775808 ≤ n.wholeValue ∧ n.wholeValue < 18446744073709551616)

/-- The double of a number: its leading digits, scaled; `none` beyond the largest
double. -/
def scaled? (n : RawNumber) : Option Finite := Finite.scaled? n.negative n.leading

/-- The value of a number whose double, if it is one, is given by `double?`. -/
def valueBy? (double? : RawNumber → Option Finite) (n : RawNumber) : Option Number :=
  if n.isInteger then some (.integer n.wholeValue) else (double? n).map .double

/-- The value of a number. -/
def value? (n : RawNumber) : Option Number := n.valueBy? scaled?

end RawNumber

end EventQuery
