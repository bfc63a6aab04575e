import EventQuery.Double.Text
import EventQuery.Json.Basic

/-!
JSON values as text.

With indent `0` the text holds no white space outside strings. With a larger
indent each item and member has its own line, indented by that many spaces a
level, and a space follows each colon. Empty arrays and objects are `[]` and
`{}` in both.
-/

namespace EventQuery

/-- A character inside a string: quote, backslash and control characters are
escaped, all others stand for themselves. -/
def escapeChar (c : Char) : List Char :=
  if c = '"' then ['\\', '"']
  else if c = '\\' then ['\\', '\\']
  else if c = '\x08' then ['\\', 'b']
  else if c = '\t' then ['\\', 't']
  else if c = '\n' then ['\\', 'n']
  else if c = '\x0c' then ['\\', 'f']
  else if c = '\r' then ['\\', 'r']
  else if c.toNat < 0x20 then
    ['\\', 'u', '0', '0', Nat.digitChar (c.toNat / 16), Nat.digitChar (c.toNat % 16)]
  else [c]

/-- A string in quotes. -/
def quoted (s : String) : List Char := '"' :: (s.toList.flatMap escapeChar ++ ['"'])

/-- A number: the digits of an integer, the fewest digits of a double. -/
def Number.text : Number → String
  | integer n => integerText n
  | double x => x.text

namespace Json

/-- The start of a line at a depth; nothing when there is no indent. -/
def lineStart (indent depth : Nat) : List Char :=
  if indent = 0 then [] else '\n' :: List.replicate (indent * depth) ' '

/-- What stands between a name and its value. -/
def keySeparator (indent : Nat) : List Char := if indent = 0 then [':'] else [':', ' ']

mutual

/-- The characters of a value that stands at a depth. -/
def render (indent : Nat) : Nat → Json → List Char
  | _, null => ['n', 'u', 'l', 'l']
  | _, bool true => ['t', 'r', 'u', 'e']
  | _, bool false => ['f', 'a', 'l', 's', 'e']
  | _, number n => n.text.toList
  | _, string s => quoted s
  | _, array [] => ['[', ']']
  | depth, array (item :: rest) =>
    '[' :: (lineStart indent (depth + 1) ++ render indent (depth + 1) item ++
      renderItems indent depth rest)
  | _, object [] => ['\x7b', '\x7d']
  | depth, object ((key, v) :: rest) =>
    '\x7b' :: (lineStart indent (depth + 1) ++ quoted key ++ keySeparator indent ++
      render indent (depth + 1) v ++ renderMembers indent depth rest)

/-- The rest of an array after an item. -/
def renderItems (indent : Nat) : Nat → List Json → List Char
  | depth, [] => lineStart indent depth ++ [']']
  | depth, item :: rest =>
    ',' :: (lineStart indent (depth + 1) ++ render indent (depth + 1) item ++
      renderItems indent depth rest)

/-- The rest of an object after a member. -/
def renderMembers (indent : Nat) : Nat → List (String × Json) → List Char
  | depth, [] => lineStart indent depth ++ ['\x7d']
  | depth, (key, v) :: rest =>
    ',' :: (lineStart indent (depth + 1) ++ quoted key ++ keySeparator indent ++
      render indent (depth + 1) v ++ renderMembers indent depth rest)

end

/-- The text of a value; indent `0` is the compact text. -/
def text (indent : Nat) (v : Json) : String := String.ofList (render indent 0 v)

/-- The text of a value without white space. -/
def compact (v : Json) : String := text 0 v

end Json

end EventQuery
