import EventQuery.Json.Number
import EventQuery.Text.Bytes
import EventQuery.Text.Hex

/-!
The tokens of a JSON text.

A text is read one character at a time by a scanner that has a mode: between
tokens, inside a word (a number or one of the three names), or inside a string.
`Token.scan?` gives the tokens of a text in order and `none` if some part of it
is no token.

String escapes of the form `\uXXXX` are kept as code units, because whether two
of them make one character is asked only of strings that are looked at
(`RawString.decode?`). For the same reason stray bytes are kept in the strings of
bytes that are no text (`Token.scanBytes?`).
-/

namespace EventQuery

/-! ### Strings as they were written -/

/-- A piece of a string: a character, a code unit given by its number, or a byte
that is part of no character. -/
inductive StringPiece where
  | char (value : Char)
  | unit (value : Nat)
  | stray (value : UInt8)
deriving Repr, DecidableEq

/-- A string as it was written. -/
abbrev RawString := List StringPiece

/-- Whether a code unit is the first half of a pair. -/
def isHighSurrogate (u : Nat) : Bool := 0xD800 ≤ u && u < 0xDC00

/-- Whether a code unit is the second half of a pair. -/
def isLowSurrogate (u : Nat) : Bool := 0xDC00 ≤ u && u < 0xE000

/-- The characters of a written string; `none` if half a pair stands alone or a
byte is stray. -/
def RawString.decode? : RawString → Option (List Char)
  | [] => some []
  | .char c :: rest => (decode? rest).map (c :: ·)
  | .stray _ :: _ => none
  | .unit u :: .unit v :: rest =>
    if isHighSurrogate u then
      if isLowSurrogate v then
        (decode? rest).map (Char.ofNat (0x10000 + (u - 0xD800) * 0x400 + (v - 0xDC00)) :: ·)
      else none
    else if isLowSurrogate u then none
    else (decode? (.unit v :: rest)).map (Char.ofNat u :: ·)
  | .unit u :: rest =>
    if isHighSurrogate u || isLowSurrogate u then none
    else (decode? rest).map (Char.ofNat u :: ·)

/-! ### Tokens -/

/-- A token of a JSON text. -/
inductive Token where
  | openArray
  | closeArray
  | openObject
  | closeObject
  | comma
  | colon
  | null
  | bool (value : Bool)
  | number (value : RawNumber)
  | string (value : RawString)
deriving Repr, DecidableEq

namespace Token

/-- White space between tokens. -/
def isGap (c : Char) : Bool := c == ' ' || c == '\t' || c == '\n' || c == '\r'

/-- The characters of numbers and names. -/
def isWordChar (c : Char) : Bool := c.isAlphanum || c == '-' || c == '+' || c == '.'

/-- The token of one punctuation character. -/
def ofPunctuation? : Char → Option Token
  | '[' => some openArray
  | ']' => some closeArray
  | '\x7b' => some openObject
  | '\x7d' => some closeObject
  | ',' => some comma
  | ':' => some colon
  | _ => none

/-- The token of a whole word: a name or a number. -/
def ofWord? (word : List Char) : Option Token :=
  if word = ['n', 'u', 'l', 'l'] then some null
  else if word = ['t', 'r', 'u', 'e'] then some (bool true)
  else if word = ['f', 'a', 'l', 's', 'e'] then some (bool false)
  else (RawNumber.ofWord? word).map number

/-- The character of a one-letter escape. -/
def escaped? : Char → Option Char
  | '"' => some '"'
  | '\\' => some '\\'
  | '/' => some '/'
  | 'b' => some '\x08'
  | 'f' => some '\x0c'
  | 'n' => some '\n'
  | 'r' => some '\r'
  | 't' => some '\t'
  | _ => none

end Token

/-! ### The scanner -/

/-- What a scanner is in the middle of; words and strings are kept in
reverse. -/
inductive ScanMode where
  | between
  | word (read : List Char)
  | string (read : RawString)
  | escape (read : RawString)
  | unit (read : RawString) (value digits : Nat)
deriving Repr, DecidableEq

/-- A scanner: its mode and the tokens it has finished, in reverse. -/
structure Scanner where
  mode : ScanMode
  finished : List Token
deriving Repr, DecidableEq

namespace Scanner

open Token

/-- A character between tokens. -/
def startToken (finished : List Token) (c : Char) : Option Scanner :=
  if isGap c then some ⟨.between, finished⟩
  else if c = '"' then some ⟨.string [], finished⟩
  else if isWordChar c then some ⟨.word [c], finished⟩
  else (ofPunctuation? c).map fun t => ⟨.between, t :: finished⟩

/-- One more character. Strings take every character but a control character;
a word ends where a character of another kind follows. -/
def step (s : Scanner) (c : Char) : Option Scanner :=
  match s.mode with
  | .between => startToken s.finished c
  | .word read =>
    if isWordChar c then some ⟨.word (c :: read), s.finished⟩
    else (ofWord? read.reverse).bind fun t => startToken (t :: s.finished) c
  | .string read =>
    if c = '"' then some ⟨.between, .string read.reverse :: s.finished⟩
    else if c = '\\' then some ⟨.escape read, s.finished⟩
    else if c.toNat < 0x20 then none
    else some ⟨.string (.char c :: read), s.finished⟩
  | .escape read =>
    if c = 'u' then some ⟨.unit read 0 0, s.finished⟩
    else (escaped? c).map fun e => ⟨.string (.char e :: read), s.finished⟩
  | .unit read value digits =>
    (hexDigitValue? c).map fun d =>
      if digits = 3 then ⟨.string (.unit (16 * value + d) :: read), s.finished⟩
      else ⟨.unit read (16 * value + d) (digits + 1), s.finished⟩

/-- One more symbol. Only strings take stray bytes. -/
def take (s : Scanner) : Symbol → Option Scanner
  | .char c => s.step c
  | .stray b => match s.mode with
    | .string read => some ⟨.string (.stray b :: read), s.finished⟩
    | _ => none

/-- The tokens in order, if the text may end here. -/
def finish? (s : Scanner) : Option (List Token) :=
  match s.mode with
  | .between => some s.finished.reverse
  | .word read => (ofWord? read.reverse).map fun t => (t :: s.finished).reverse
  | _ => none

end Scanner

/-- The tokens of a text, in order. -/
def Token.scan? (text : List Char) : Option (List Token) :=
  (text.foldlM Scanner.step ⟨.between, []⟩).bind Scanner.finish?

/-- The tokens of bytes, in order. -/
def Token.scanBytes? (bytes : List UInt8) : Option (List Token) :=
  ((symbols bytes).foldlM Scanner.take ⟨.between, []⟩).bind Scanner.finish?

end EventQuery
