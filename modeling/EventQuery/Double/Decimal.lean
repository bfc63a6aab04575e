import EventQuery.Double.Basic

/-!
Doubles and decimals.

* `Finite.ofDecimal?` is the double nearest to `digits · 10 ^ exponent`, and
  `Finite.scaled?` comes close to it with a rounding for each step.
* `Finite.shortest` has the fewest digits that read back as the same double
  and, among those, is the nearest to it.
-/

namespace EventQuery

/-- The number `digits · 10 ^ exponent`. -/
structure Decimal where
  digits : Nat
  exponent : Int
deriving Repr, DecidableEq

namespace Decimal

/-- The number of decimal digits of a natural number; `1` for zero. -/
def width (n : Nat) : Nat := (Nat.toDigits 10 n).length

/-- The decimal as a quotient. -/
def ratio (d : Decimal) : Nat × Nat :=
  if 0 ≤ d.exponent then (d.digits * Nat.pow 10 d.exponent.toNat, 1)
  else (d.digits, Nat.pow 10 (-d.exponent).toNat)

/-- The exponent of the leading digit. -/
def order (d : Decimal) : Int := d.exponent + width d.digits - 1

/-- The same number without trailing zeros; at most `steps` are removed. -/
def stripZeros : Nat → Decimal → Decimal
  | 0, d => d
  | steps + 1, d =>
    if d.digits % 10 = 0 ∧ d.digits ≠ 0 then stripZeros steps ⟨d.digits / 10, d.exponent + 1⟩
    else d

/-- The same number without trailing zeros. -/
def normalized (d : Decimal) : Decimal := stripZeros (width d.digits) d

end Decimal

namespace Finite

/-- The double nearest to a decimal, `none` beyond the largest double. Far
outside the range of doubles the order of the decimal decides alone. -/
def ofDecimal? (negative : Bool) (d : Decimal) : Option Finite :=
  if d.digits = 0 then some (zero negative)
  else if 400 < d.order then none
  else if d.order < -400 then some (zero negative)
  else
    let (num, den) := d.ratio
    ofRatio? negative num den

/-- A power of ten, rounded to a double; `none` beyond the largest double. -/
def powerOfTen? (k : Nat) : Option Finite := ofRatio? false (Nat.pow 10 k) 1

/-- A decimal as the double of its digits, multiplied or divided by a power of
ten. Below `10 ^ (-308)` the power is taken off in two steps, and nothing is left
of a number with 20 digits after twice as many places. -/
def scaled? (negative : Bool) (d : Decimal) : Option Finite :=
  (ofRatio? negative d.digits 1).bind fun x =>
    if x.isZero then some x
    else if 308 < d.exponent then none
    else if 0 ≤ d.exponent then (powerOfTen? d.exponent.toNat).bind x.times?
    else if -308 ≤ d.exponent then (powerOfTen? (-d.exponent).toNat).bind x.over?
    else if -616 ≤ d.exponent then
      (powerOfTen? 308).bind fun p => (x.over? p).bind fun y =>
        (powerOfTen? (-d.exponent - 308).toNat).bind y.over?
    else some (zero negative)

/-- The magnitude as a decimal, exactly. -/
def exactDecimal (x : Finite) : Decimal :=
  if 0 ≤ x.exponent then ⟨x.significand * Nat.pow 2 x.exponent.toNat, 0⟩
  else ⟨x.significand * Nat.pow 5 (-x.exponent).toNat, x.exponent⟩

/-- A decimal reads back as the double `x`. -/
def readsBack (x : Finite) (d : Decimal) : Bool := ofDecimal? x.negative d == some x

/-- The decimal nearest to the exact one among the two neighbours that drop its
last `dropped` digits and read back as `x`; of two equally near ones, the even
one. -/
def neighbour? (x : Finite) (exact : Decimal) (dropped : Nat) : Option Decimal :=
  let unit := Nat.pow 10 dropped
  let below : Decimal := ⟨exact.digits / unit, exact.exponent + dropped⟩
  let above : Decimal := ⟨exact.digits / unit + 1, exact.exponent + dropped⟩
  let rest := exact.digits % unit
  match x.readsBack below, x.readsBack above with
  | true, true =>
    if 2 * rest < unit then some below
    else if unit < 2 * rest then some above
    else if below.digits % 2 = 0 then some below else some above
  | true, false => some below
  | false, true => some above
  | false, false => none

/-- The decimal with the fewest digits that reads back as `x`, and the nearest
to `x` among those. The exact decimal stands in when no shorter one does. -/
def shortest (x : Finite) : Decimal :=
  let exact := x.exactDecimal
  let width := Decimal.width exact.digits
  let found := (List.range (width - 1)).findSome? fun kept =>
    x.neighbour? exact (width - 1 - kept)
  (found.getD exact).normalized

end Finite

namespace Double

/-- The double nearest to a decimal. -/
def ofDecimal (negative : Bool) (d : Decimal) : Double :=
  match Finite.ofDecimal? negative d with
  | some x => finite x
  | none => infinity negative

/-- The single-precision number nearest to a decimal, as a double. -/
def ofDecimalSingle (negative : Bool) (d : Decimal) : Double :=
  if d.digits = 0 then finite (.zero negative)
  else if 400 < d.order then infinity negative
  else if d.order < -400 then finite (.zero negative)
  else
    let (num, den) := d.ratio
    ofRatioSingle negative num den

end Double

end EventQuery
