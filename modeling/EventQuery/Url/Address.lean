import EventQuery.Double.Text
import EventQuery.Text.Hex

/-!
Internet addresses as text.

* An IPv4 address has up to four numbers, decimal, octal or hexadecimal; the last
  one fills all the bytes that are left (`ipv4?`).
* An IPv6 address has eight groups of hexadecimal digits; one run of zero groups
  may be left out, and the last two groups may be four decimal numbers
  (`ipv6?`).
-/

namespace EventQuery

/-- The pieces of a list between the characters of a class. -/
def splitOnChars (separates : Char → Bool) : List Char → List (List Char)
  | [] => [[]]
  | c :: rest =>
    if separates c then [] :: splitOnChars separates rest
    else match splitOnChars separates rest with
      | piece :: pieces => (c :: piece) :: pieces
      | [] => [[c]]

/-! ### IPv4 -/

/-- The value of digits in a base. -/
def valueInBase (base : Nat) (ds : List Nat) : Nat := ds.foldl (fun n d => base * n + d) 0

/-- The digits of a number in a base; `none` if one of them is no digit of
it. -/
def digitsInBase? (base : Nat) (cs : List Char) : Option (List Nat) :=
  cs.mapM fun c => (hexDigitValue? c).bind fun d => if d < base then some d else none

/-- The value of a part of an address: hexadecimal after `0x`, octal after `0`,
else decimal. -/
def ipv4Part? (cs : List Char) : Option Nat :=
  let (base, digits) : Nat × List Char := match cs with
    | '0' :: 'x' :: rest => (16, rest)
    | '0' :: 'X' :: rest => (16, rest)
    | '0' :: c :: rest => (8, c :: rest)
    | _ => (10, cs)
  if cs = [] then none else (digitsInBase? base digits).map (valueInBase base)

/-- The parts of a name between points; a point at the end adds none. -/
def dottedParts (cs : List Char) : List (List Char) :=
  let parts := splitOnChars (· == '.') cs
  match parts.reverse with
  | [] :: rest => rest.reverse
  | _ => parts

/-- Whether the last part of a name is a number, so that the name has to be an
address. -/
def endsInNumber (cs : List Char) : Bool :=
  match (dottedParts cs).reverse with
  | last :: _ => (last ≠ [] && last.all Char.isDigit) || (ipv4Part? last).isSome
  | [] => false

/-- The address with these numbers: all but the last are bytes, and the last
fills what is left. -/
def ipv4OfParts? (parts : List Nat) : Option Nat :=
  match parts.reverse with
  | [] => none
  | last :: before =>
    let bytes := before.reverse
    if 3 < bytes.length then none
    else if bytes.any (255 < ·) then none
    else if Nat.pow 256 (4 - bytes.length) ≤ last then none
    else some (valueInBase 256 bytes * Nat.pow 256 (4 - bytes.length) + last)

/-- Reads an IPv4 address. -/
def ipv4? (cs : List Char) : Option Nat := ((dottedParts cs).mapM ipv4Part?).bind ipv4OfParts?

/-- An IPv4 address as four decimal numbers. -/
def ipv4Text (address : Nat) : List Char :=
  ['.'].intercalate ([address / 16777216 % 256, address / 65536 % 256, address / 256 % 256,
    address % 256].map decimalDigits)

/-! ### IPv6 -/

/-- Reads a group of one to four hexadecimal digits. -/
def ipv6Group? (cs : List Char) : Option Nat :=
  if cs = [] ∨ 4 < cs.length then none else (cs.mapM hexDigitValue?).map (valueInBase 16)

/-- Reads a byte in decimal digits without a zero in front. -/
def decimalByte? (cs : List Char) : Option Nat :=
  if cs = [] ∨ ¬ cs.all Char.isDigit ∨ (cs.head? = some '0' ∧ cs ≠ ['0']) then none
  else if digitsValue cs ≤ 255 then some (digitsValue cs) else none

/-- Reads four decimal numbers as two groups. -/
def dottedGroups? (cs : List Char) : Option (List Nat) :=
  ((splitOnChars (· == '.') cs).mapM decimalByte?).bind fun
    | [a, b, c, d] => some [256 * a + b, 256 * c + d]
    | _ => none

/-- Reads groups between colons; the last one may be dotted if `dotted`. -/
def ipv6Groups? (dotted : Bool) : List (List Char) → Option (List Nat)
  | [] => some []
  | [last] =>
    if dotted && last.contains '.' then dottedGroups? last else (ipv6Group? last).map ([·])
  | group :: rest => do
    let g ← ipv6Group? group
    let gs ← ipv6Groups? dotted rest
    return g :: gs

/-- What stands before and after the first double colon. -/
def splitAtGap? : List Char → Option (List Char × List Char)
  | ':' :: ':' :: rest => some ([], rest)
  | c :: rest => (splitAtGap? rest).map fun (before, after) => (c :: before, after)
  | [] => none

/-- The pieces of a text between colons; none of an empty text. -/
def colonPieces (cs : List Char) : List (List Char) :=
  if cs = [] then [] else splitOnChars (· == ':') cs

/-- Reads an IPv6 address as its eight groups. -/
def ipv6? (cs : List Char) : Option (List Nat) :=
  match splitAtGap? cs with
  | none => (ipv6Groups? true (splitOnChars (· == ':') cs)).bind fun groups =>
    if groups.length = 8 then some groups else none
  | some (before, after) => do
    let front ← ipv6Groups? false (colonPieces before)
    let back ← ipv6Groups? true (colonPieces after)
    if front.length + back.length ≤ 7 then
      some (front ++ List.replicate (8 - front.length - back.length) 0 ++ back)
    else none

/-- A group in hexadecimal digits. -/
def groupText (n : Nat) : List Char := Nat.toDigits 16 n

/-- The number of zero groups at the start. -/
def zeroRun (groups : List Nat) : Nat := (groups.takeWhile (· == 0)).length

/-- An IPv6 address: the first longest run of at least two zero groups is left
out. -/
def ipv6Text (groups : List Nat) : List Char :=
  let runs := (List.range groups.length).map fun i => zeroRun (groups.drop i)
  let longest := runs.foldl Nat.max 0
  let colons (gs : List Nat) : List Char := [':'].intercalate (gs.map groupText)
  if longest < 2 then colons groups
  else
    let start := runs.findIdx (· == longest)
    colons (groups.take start) ++ ':' :: ':' :: colons (groups.drop (start + longest))

end EventQuery
