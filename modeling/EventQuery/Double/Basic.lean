/-!
Binary64 numbers as exact values.

A finite double is kept as its sign, a significand below `2 ^ 53` and an
exponent, in the one form a value has; all arithmetic is on `Nat` and `Int`.

* `Finite.ofRatio?` rounds a quotient to the nearest double, a tie to the even
  significand, and answers `none` beyond the largest double.
* `Finite.toInt64` is the conversion to 64 bits, which cuts off and saturates;
  `Double.toInt64?` is that of an integer below `2 ^ 63` in size, and of nothing
  else.
* `Double.equal` is the comparison of numbers: `0.0` equals `-0.0`, and not a
  number differs from itself.
-/

namespace EventQuery

/-! ### Rounding to a binary format -/

/-- A binary floating-point format: significands below `2 ^ precision` and the
range of their exponents. -/
structure BinaryFormat where
  precision : Nat
  minExponent : Int
  maxExponent : Int
deriving Repr, DecidableEq

namespace BinaryFormat

/-- Single precision. -/
def binary32 : BinaryFormat := ⟨24, -149, 104⟩

/-- Double precision. -/
def binary64 : BinaryFormat := ⟨53, -1074, 971⟩

end BinaryFormat

/-- The quotient `num / den` rounded to the nearest integer, a tie to the even
one. -/
def nearestEven (num den : Nat) : Nat :=
  let q := num / den
  let r := num % den
  if 2 * r < den then q
  else if den < 2 * r then q + 1
  else if q % 2 = 0 then q else q + 1

/-- The quotient `num / den · 2 ^ (-e)` as a pair of a numerator and a
denominator. -/
def scaleRatio (num den : Nat) (e : Int) : Nat × Nat :=
  if 0 ≤ e then (num, den * Nat.pow 2 e.toNat) else (num * Nat.pow 2 (-e).toNat, den)

/-- The exponent of the leading binary digit of a positive quotient. -/
def binaryOrder (num den : Nat) : Int :=
  let guess : Int := (num.log2 : Int) - (den.log2 : Int)
  let (n, d) := scaleRatio num den guess
  if n < d then guess - 1 else guess

namespace BinaryFormat

/-- The significand and exponent nearest to a quotient, before the range of
exponents is looked at. A significand that rounds up to a power of two moves to
the next exponent. -/
def nearest (f : BinaryFormat) (num den : Nat) : Nat × Int :=
  if num = 0 then (0, f.minExponent)
  else
    let e := max f.minExponent (binaryOrder num den - (f.precision - 1 : Nat))
    let (n, d) := scaleRatio num den e
    let q := nearestEven n d
    if q = Nat.pow 2 f.precision then (Nat.pow 2 (f.precision - 1), e + 1) else (q, e)

/-- The significand and exponent nearest to a quotient, `none` on overflow. -/
def nearest? (f : BinaryFormat) (num den : Nat) : Option (Nat × Int) :=
  let (m, e) := f.nearest num den
  if e ≤ f.maxExponent then some (m, e) else none

end BinaryFormat

/-! ### Doubles -/

/-- A finite double `± significand · 2 ^ exponent`. Below `2 ^ 52` the
significand goes with the least exponent only, so a value has one form. -/
structure Finite where
  negative : Bool
  significand : Nat
  exponent : Int
  significand_lt : significand < 9007199254740992
  exponent_ge : -1074 ≤ exponent
  exponent_le : exponent ≤ 971
  canonical : exponent = -1074 ∨ 4503599627370496 ≤ significand
deriving Repr, DecidableEq

/-- The binary64 numbers that have no digits. -/
inductive NonFinite where
  | nan
  | infinity (negative : Bool)
deriving Repr, DecidableEq

/-- A binary64 number. -/
inductive Double where
  | finite (value : Finite)
  | nonFinite (value : NonFinite)
deriving Repr, DecidableEq

namespace Finite

/-- The finite double with these parts, if they are in the one allowed form. -/
def ofParts? (negative : Bool) (significand : Nat) (exponent : Int) : Option Finite :=
  if h : significand < 9007199254740992 ∧ -1074 ≤ exponent ∧ exponent ≤ 971 ∧
      (exponent = -1074 ∨ 4503599627370496 ≤ significand) then
    some ⟨negative, significand, exponent, h.1, h.2.1, h.2.2.1, h.2.2.2⟩
  else none

/-- Zero with a sign. -/
def zero (negative : Bool) : Finite :=
  ⟨negative, 0, -1074, by decide, by decide, by decide, by decide⟩

/-- The double nearest to a quotient, `none` when that is beyond the largest
double. -/
def ofRatio? (negative : Bool) (num den : Nat) : Option Finite :=
  let (m, e) := BinaryFormat.binary64.nearest num den
  ofParts? negative m e

/-- A double that is zero, of either sign. -/
def isZero (x : Finite) : Bool := x.significand == 0

/-- Numerical equality: the sign of zero does not count. -/
def equal (x y : Finite) : Bool := (x.isZero && y.isZero) || x == y

/-- The magnitude as a quotient. -/
def ratio (x : Finite) : Nat × Nat :=
  if 0 ≤ x.exponent then (x.significand * Nat.pow 2 x.exponent.toNat, 1)
  else (x.significand, Nat.pow 2 (-x.exponent).toNat)

/-- Whether there is nothing behind the point. -/
def isIntegral (x : Finite) : Bool := x.ratio.1 % x.ratio.2 == 0

/-- The value without what is behind the point. -/
def truncate (x : Finite) : Int :=
  let whole := x.ratio.1 / x.ratio.2
  if x.negative then -(whole : Int) else whole

/-- The conversion to 64 bits with a sign: what is behind the point is cut off, and
a value beyond either end becomes that end. -/
def toInt64 (x : Finite) : Int64 :=
  .ofInt (max (-9223372036854775808) (min 9223372036854775807 x.truncate))

/-- Whether the magnitude is below `2 ^ 63`. -/
def isBelowTwoPow63 (x : Finite) : Bool := decide (x.ratio.1 < 9223372036854775808 * x.ratio.2)

/-- The value as an integer of 64 bits, if it is an integer below `2 ^ 63` in
size. -/
def toInt64? (x : Finite) : Option Int64 :=
  if x.isIntegral && x.isBelowTwoPow63 then some x.toInt64 else none

/-- The product, rounded once; `none` beyond the largest double. -/
def times? (x y : Finite) : Option Finite :=
  let (a, b) := x.ratio
  let (c, d) := y.ratio
  ofRatio? (x.negative != y.negative) (a * c) (b * d)

/-- The quotient, rounded once; `none` beyond the largest double, and where the
divisor is zero. -/
def over? (x y : Finite) : Option Finite :=
  let (a, b) := x.ratio
  let (c, d) := y.ratio
  if c = 0 then none else ofRatio? (x.negative != y.negative) (a * d) (b * c)

end Finite

/-- The name of a number that has no digits. -/
def NonFinite.name : NonFinite → String
  | nan => "NaN"
  | infinity false => "inf"
  | infinity true => "-inf"

namespace Double

/-- Infinity with a sign. -/
def infinity (negative : Bool) : Double := nonFinite (.infinity negative)

/-- The double nearest to a quotient; beyond the largest double, infinity. -/
def ofRatio (negative : Bool) (num den : Nat) : Double :=
  match Finite.ofRatio? negative num den with
  | some x => finite x
  | none => infinity negative

/-- The double nearest to an integer. -/
def ofInt (n : Int) : Double := ofRatio (n < 0) n.natAbs 1

/-- The single-precision number nearest to a quotient, as a double. -/
def ofRatioSingle (negative : Bool) (num den : Nat) : Double :=
  match BinaryFormat.binary32.nearest? num den with
  | some (m, e) =>
    if 0 ≤ e then ofRatio negative (m * Nat.pow 2 e.toNat) 1
    else ofRatio negative m (Nat.pow 2 (-e).toNat)
  | none => infinity negative

/-- Equality of numbers: not a number differs from itself and the sign of zero
does not count. -/
def equal : Double → Double → Bool
  | finite x, finite y => x.equal y
  | nonFinite (.infinity s), nonFinite (.infinity t) => s == t
  | _, _ => false

instance : BEq Double := ⟨equal⟩

/-- The value as an integer of 64 bits, if it is an integer below `2 ^ 63` in
size. -/
def toInt64? : Double → Option Int64
  | finite x => x.toInt64?
  | nonFinite _ => none

/-- The quotient of two finite doubles, rounded once. -/
def divide (x y : Finite) : Double :=
  match x.over? y with
  | some q => finite q
  | none => if x.isZero && y.isZero then nonFinite .nan else infinity (x.negative != y.negative)

end Double

end EventQuery
