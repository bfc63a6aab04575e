/-!
Labels of domain names in ASCII.

The ASCII characters of a label come first, then where the others are inserted: a
row of numbers of variable length, each in digits of base 36, with an estimate of
the size of the next that follows the last ones.
-/

namespace EventQuery

namespace Punycode

/-- Divides a number until it is small, and says by how much an estimate grows for
that; `fuel` is a bound on the divisions. -/
def reduce : Nat → Nat → Nat → Nat × Nat
  | 0, k, delta => (k, delta)
  | fuel + 1, k, delta => if 455 < delta then reduce fuel (k + 36) (delta / 35) else (k, delta)

/-- The next estimate after a number `delta`, when `count` characters are
there. -/
def adapt (delta count : Nat) (isFirst : Bool) : Nat :=
  let delta := if isFirst then delta / 700 else delta / 2
  let (k, delta) := reduce (delta + 1) 0 (delta + delta / count)
  k + 36 * delta / (delta + 38)

/-- The least value of a digit that is not the last one, at a place. -/
def threshold (k bias : Nat) : Nat :=
  if k ≤ bias + 1 then 1 else if bias + 26 ≤ k then 26 else k - bias

/-- A digit of base 36: letters, then figures. -/
def digit (n : Nat) : Char :=
  if n < 26 then Char.ofNat ('a'.toNat + n) else Char.ofNat ('0'.toNat + (n - 26))

/-- The value of a digit of base 36. -/
def digitValue? (c : Char) : Option Nat :=
  if 'a' ≤ c ∧ c ≤ 'z' then some (c.toNat - 'a'.toNat)
  else if 'A' ≤ c ∧ c ≤ 'Z' then some (c.toNat - 'A'.toNat)
  else if c.isDigit then some (c.toNat - '0'.toNat + 26)
  else none

/-! ### Writing -/

/-- A number in digits of variable length; `fuel` is a bound on their number. -/
def encodeNumber (bias : Nat) : Nat → Nat → Nat → List Char
  | 0, _, _ => []
  | fuel + 1, k, q =>
    let t := threshold k bias
    if q < t then [digit q]
    else digit (t + (q - t) % (36 - t)) :: encodeNumber bias fuel (k + 36) ((q - t) / (36 - t))

/-- The state of a writer: the next character to insert, the number that has
grown since the last insertion, the estimate, and how many characters are
there. -/
structure Writer where
  delta : Nat
  bias : Nat
  handled : Nat
  output : List Char

/-- Passes one character of the label while the characters numbered `n` are
inserted. -/
def passChar (n basic : Nat) (w : Writer) (c : Char) : Writer :=
  if c.toNat < n then { w with delta := w.delta + 1 }
  else if c.toNat = n then
    { delta := 0
      bias := adapt w.delta (w.handled + 1) (w.handled == basic)
      handled := w.handled + 1
      output := w.output ++ encodeNumber w.bias (w.delta + 1) 36 w.delta }
  else w

/-- Inserts the characters of a label in ascending order; `n` is the number after
the last one inserted. -/
def insertAll (label : List Char) (basic : Nat) : List Nat → Nat → Writer → Writer
  | [], _, w => w
  | m :: rest, n, w =>
    let w := { w with delta := w.delta + (m - n) * (w.handled + 1) }
    let w := label.foldl (passChar m basic) w
    insertAll label basic rest (m + 1) { w with delta := w.delta + 1 }

/-- A label in ASCII. -/
def encode (label : List Char) : List Char :=
  let basic := label.filter fun c => c.toNat < 0x80
  let others := ((label.map Char.toNat).filter (0x80 ≤ ·)).mergeSort
  let front := if basic = [] then [] else basic ++ ['-']
  front ++ (insertAll label basic.length others.eraseDups 0x80 ⟨0, 72, basic.length, []⟩).output

/-! ### Reading -/

/-- The state of a reader: the label so far, where the next character goes and
its number, the estimate, and the number that is being read with its place and
weight. -/
structure Reader where
  label : List Char
  index : Nat
  code : Nat
  bias : Nat
  sum : Nat
  weight : Nat
  place : Nat

/-- The numbers of a label stay below this bound. -/
def numberBound : Nat := 4294967296

/-- Inserts a character whose number has been read. -/
def Reader.insertRead (r : Reader) : Option Reader :=
  let count := r.label.length + 1
  let target := r.index + r.sum
  let code := r.code + target / count
  let index := target % count
  if 0x10FFFF < code ∨ (0xD800 ≤ code ∧ code < 0xE000) then none
  else
    some { label := r.label.take index ++ Char.ofNat code :: r.label.drop index
           index := index + 1
           code
           bias := adapt r.sum count (r.index == 0)
           sum := 0
           weight := 1
           place := 36 }

/-- Reads one more digit. A digit below the threshold of its place is the last
one of its number; neither the number nor the weight of a digit to come may reach
the bound. -/
def Reader.step (r : Reader) (c : Char) : Option Reader :=
  (digitValue? c).bind fun d =>
    let t := threshold r.place r.bias
    let r := { r with sum := r.sum + d * r.weight }
    if numberBound ≤ r.index + r.sum then none
    else if d < t then r.insertRead
    else
      let weight := r.weight * (36 - t)
      if numberBound ≤ weight then none
      else some { r with weight, place := r.place + 36 }

/-- What stands before the last hyphen and after it. Without a hyphen, or with one
that nothing stands before, all of it is digits. -/
def splitBasic (cs : List Char) : List Char × List Char :=
  match cs.reverse.span (· != '-') with
  | (digits, _ :: c :: basic) => ((c :: basic).reverse, digits.reverse)
  | _ => ([], cs)

/-- The label of an ASCII form; `none` if it is none. -/
def decode? (cs : List Char) : Option (List Char) :=
  let (basic, digits) := splitBasic cs
  if basic.any fun c => 0x80 ≤ c.toNat then none
  else (digits.foldlM Reader.step ⟨basic, 0, 0x80, 72, 0, 1, 36⟩).bind fun r =>
    if r.place = 36 then some r.label else none

end Punycode

end EventQuery
