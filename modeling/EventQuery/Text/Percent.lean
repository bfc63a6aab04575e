import EventQuery.Text.Hex

/-!
Percent encoding.

A character is either kept or written as its bytes, each as a percent sign and
two hexadecimal digits in upper case. `percentDecode` takes every such group
back to its byte and everything else to its own bytes.
-/

namespace EventQuery

/-- A byte as a percent sign and two digits. -/
def percentByte (b : UInt8) : List Char :=
  ['%', upperHexDigit (b.toNat / 16), upperHexDigit (b.toNat % 16)]

/-- The bytes of a character, each written with a percent sign. -/
def percentChar (c : Char) : List Char := (String.utf8EncodeChar c).flatMap percentByte

/-- A text in which the characters of a class are written as bytes. -/
def percentEncode (escaped : Char → Bool) (cs : List Char) : List Char :=
  cs.flatMap fun c => if escaped c then percentChar c else [c]

/-- The byte of two hexadecimal digits. -/
def hexByte? (high low : Char) : Option UInt8 :=
  match hexDigitValue? high, hexDigitValue? low with
  | some h, some l => some (UInt8.ofNat (16 * h + l))
  | _, _ => none

/-- The bytes of a text, with groups of a percent sign and two digits as the
byte they name. -/
def percentDecode : List Char → List UInt8
  | '%' :: high :: low :: rest =>
    match hexByte? high low with
    | some b => b :: percentDecode rest
    | none => String.utf8EncodeChar '%' ++ percentDecode (high :: low :: rest)
  | c :: rest => String.utf8EncodeChar c ++ percentDecode rest
  | [] => []

/-- The text of the bytes, if they are the bytes of a text. -/
def textOfBytes? (bytes : List UInt8) : Option String := String.fromUTF8? bytes.toByteArray

/-! ### Classes of characters -/

/-- Control characters and everything beyond ASCII. -/
def isControlOrWide (c : Char) : Bool := c.toNat < 0x20 || 0x7f ≤ c.toNat

/-- What a fragment cannot hold. -/
def escapedInFragment (c : Char) : Bool :=
  isControlOrWide c || [' ', '"', '<', '>', '\x60'].contains c

/-- What a path cannot hold. -/
def escapedInPath (c : Char) : Bool :=
  escapedInFragment c || ['#', '?', '\x7b', '\x7d'].contains c

/-- What a name or a password cannot hold. -/
def escapedInUserInfo (c : Char) : Bool :=
  escapedInPath c || ['/', ':', ';', '=', '@', '[', '\\', ']', '^', '|'].contains c

/-- What a single segment of a path cannot hold. -/
def escapedInSegment (c : Char) : Bool := escapedInPath c || ['/', '%', '\\'].contains c

/-- What a query cannot hold; the apostrophe only where the scheme is one of the
special ones. -/
def escapedInQuery (special : Bool) (c : Char) : Bool :=
  isControlOrWide c || [' ', '"', '#', '<', '>'].contains c || (special && c == '\'')

/-! ### Forms -/

/-- A character of a form value: letters, digits and `*-._` are kept, a space is
a plus sign, everything else is written as bytes. -/
def formChar (c : Char) : List Char :=
  if c.isAlphanum || ['*', '-', '.', '_'].contains c then [c]
  else if c = ' ' then ['+']
  else percentChar c

/-- A field of a form: name and value joined by `=`. -/
def formField (f : String × String) : List Char :=
  f.1.toList.flatMap formChar ++ '=' :: f.2.toList.flatMap formChar

/-- A form: its fields joined by `&`. -/
def formEncode (fields : List (String × String)) : String :=
  String.ofList (['&'].intercalate (fields.map formField))

end EventQuery
