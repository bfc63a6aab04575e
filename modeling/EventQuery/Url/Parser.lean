import EventQuery.Url.Basic
import EventQuery.Url.Domain

/-!
Reading resource locators.

Control characters and spaces around a locator, and tabs and line ends anywhere
in it, do not count. `Url.parse` finds the first thing that is wrong, and
`UrlError.message` words it.
-/

namespace EventQuery

/-- What can be wrong with a locator. -/
inductive UrlError where
  | relative
  | emptyHost
  | invalidPort
  | invalidIpv4
  | invalidIpv6
  | invalidDomain
  | invalidHostCharacter
deriving Repr, DecidableEq

/-- The wording of an error. -/
def UrlError.message : UrlError → String
  | relative => "relative URL without a base"
  | emptyHost => "empty host"
  | invalidPort => "invalid port number"
  | invalidIpv4 => "invalid IPv4 address"
  | invalidIpv6 => "invalid IPv6 address"
  | invalidDomain => "invalid international domain name"
  | invalidHostCharacter => "invalid domain character"

/-! ### Schemes -/

/-- The schemes that name a host, each with its usual port number, if it has
one. -/
def specialSchemes : List (String × Option Nat) :=
  [("http", some 80), ("https", some 443), ("ws", some 80), ("wss", some 443), ("ftp", some 21),
    ("file", none)]

/-- Whether a scheme is one of the special ones. -/
def isSpecialScheme (scheme : String) : Bool := specialSchemes.any fun s => s.1 == scheme

/-- The usual port number of a scheme. -/
def usualPortNumber? (scheme : String) : Option Nat :=
  match specialSchemes.find? fun s => s.1 == scheme with
  | some (_, portNumber) => portNumber
  | none => none

/-- The scheme in lower case, and what follows its colon. -/
def readScheme? (cs : List Char) : Option (String × List Char) :=
  let name := cs.takeWhile fun c => c.isAlphanum || c == '+' || c == '-' || c == '.'
  match name, cs.drop name.length with
  | first :: _, ':' :: rest =>
    if first.isAlpha then some (String.ofList (name.map Char.toLower), rest) else none
  | _, _ => none

/-! ### Hosts -/

/-- Whether a character ends the part of a locator in which the host is. -/
def endsAuthority (special : Bool) (c : Char) : Bool :=
  c == '/' || c == '?' || c == '#' || (special && c == '\\')

/-- Whether a character cannot be in the host of a scheme that is not
special. -/
def isForbiddenInHost (c : Char) : Bool :=
  ['\x00', '\t', '\n', '\r', ' ', '#', '/', ':', '<', '>', '?', '@', '[', '\\', ']', '^',
    '|'].contains c

/-- A host in brackets. -/
def bracketedHost (cs : List Char) : Except UrlError Host :=
  match cs.reverse with
  | ']' :: inner => match ipv6? (inner.reverse.drop 1) with
    | some groups => .ok (.ipv6 groups)
    | none => .error .invalidIpv6
  | _ => .error .invalidIpv6

/-- The host of a special scheme: an address or a domain name, which may be
written with percent signs. -/
def specialHost (cs : List Char) : Except UrlError Host :=
  if cs.head? = some '[' then bracketedHost cs
  else match (textOfBytes? (percentDecode cs)).bind fun s => domainToAscii? s.toList with
    | none => .error .invalidDomain
    | some [] => .error .emptyHost
    | some name =>
      if endsInNumber name then
        match ipv4? name with
        | some address => .ok (.ipv4 address)
        | none => .error .invalidIpv4
      else .ok (.domain (String.ofList name))

/-- The host of any other scheme: an address in brackets, or any text without
certain characters. -/
def plainHost (cs : List Char) : Except UrlError Host :=
  if cs.head? = some '[' then bracketedHost cs
  else if cs.any isForbiddenInHost then .error .invalidHostCharacter
  else .ok (.domain (String.ofList (percentEncode isControlOrWide cs)))

/-- The length of the host at the start of a text: it ends at a colon that is
not in brackets. -/
def hostLength (special : Bool) : Bool → List Char → Nat
  | _, [] => 0
  | inBrackets, c :: rest =>
    if (c == ':' && !inBrackets) || endsAuthority special c then 0
    else
      let inBrackets := if c = '[' then true else if c = ']' then false else inBrackets
      hostLength special inBrackets rest + 1

/-- Reads a port number: digits up to `65535`. The usual one of the scheme is not kept.
Only a path, a query or a fragment may follow. -/
def readPortNumber (scheme : String) (cs : List Char) : Except UrlError (Option Nat × List Char) :=
  let ds := cs.takeWhile Char.isDigit
  let rest := cs.drop ds.length
  if 65535 < digitsValue ds then .error .invalidPort
  else match rest with
    | c :: _ =>
      if endsAuthority true c then .ok (kept ds, rest) else .error .invalidPort
    | [] => .ok (kept ds, rest)
where
  /-- The port number to keep. -/
  kept (ds : List Char) : Option Nat :=
    if ds = [] ∨ usualPortNumber? scheme = some (digitsValue ds) then none
    else some (digitsValue ds)

/-- What stands before and after the last `@`. -/
def splitAtLastAt? (cs : List Char) : Option (List Char × List Char) :=
  match cs.reverse.span (· != '@') with
  | (_, []) => none
  | (after, _ :: before) => some (before.reverse, after.reverse)

/-- User and password, in encoded form. -/
def readUserInfo (cs : List Char) : String × String :=
  let (user, rest) := cs.span (· != ':')
  (String.ofList (percentEncode escapedInUserInfo user),
    String.ofList (percentEncode escapedInUserInfo (rest.drop 1)))

/-- Reads a host and a port number. -/
def readHostAndPort (scheme : String) (cs : List Char) :
    Except UrlError (Host × Option Nat × List Char) := do
  let special := isSpecialScheme scheme
  let size := hostLength special false cs
  let (name, rest) := (cs.take size, cs.drop size)
  if special && name.isEmpty then throw .emptyHost
  let host ← if special then specialHost name else plainHost name
  match rest with
  | ':' :: rest =>
    if name.isEmpty then throw .emptyHost
    let (portNumber, rest) ← readPortNumber scheme rest
    return (host, portNumber, rest)
  | _ => return (host, none, rest)

/-- Reads an authority. -/
def readAuthority (scheme : String) (cs : List Char) :
    Except UrlError (Authority × List Char) := do
  let special := isSpecialScheme scheme
  let part := cs.takeWhile fun c => !endsAuthority special c
  let rest := cs.drop part.length
  match splitAtLastAt? part with
  | none =>
    let (host, portNumber, rest) ← readHostAndPort scheme cs
    return (⟨"", "", host, portNumber⟩, rest)
  | some ([], after) =>
    if after = [] ∧ rest ≠ [] then throw .emptyHost
    let (host, portNumber, rest) ← readHostAndPort scheme (after ++ rest)
    return (⟨"", "", host, portNumber⟩, rest)
  | some (before, after) =>
    let (user, password) := readUserInfo before
    let (host, portNumber, rest) ← readHostAndPort scheme (after ++ rest)
    if host = .domain "" ∧ (user ≠ "" ∨ password ≠ "") then throw .emptyHost
    return (⟨user, password, host, portNumber⟩, rest)

/-! ### Paths -/

/-- Whether an encoded segment means the place above. -/
def isDoubleDot (s : String) : Bool :=
  ["..", "%2e%2e", "%2e.", ".%2e"].contains (String.ofList (s.toList.map Char.toLower))

/-- Whether an encoded segment means the same place. -/
def isSingleDot (s : String) : Bool :=
  [".", "%2e"].contains (String.ofList (s.toList.map Char.toLower))

/-- Puts segments in a row, following those that mean the same place or the
place above. -/
def resolveSegments (done : List String) : List String → List String
  | [] => done
  | [last] =>
    if isDoubleDot last then done.dropLast ++ [""]
    else if isSingleDot last then done ++ [""]
    else done ++ [last]
  | s :: rest =>
    if isDoubleDot s then resolveSegments done.dropLast rest
    else if isSingleDot s then resolveSegments done rest
    else resolveSegments (done ++ [s]) rest

/-- Reads the segments of a path after its first slash. -/
def readSegments (special : Bool) (cs : List Char) : List String :=
  let pieces := splitOnChars (fun c => c == '/' || (special && c == '\\')) cs
  resolveSegments [] (pieces.map fun p => String.ofList (percentEncode escapedInPath p))

/-- Reads a path that follows an authority. A special scheme has a path at
least of one slash. -/
def readPath (special : Bool) (cs : List Char) : List String :=
  match cs with
  | [] => if special then [""] else []
  | c :: rest =>
    if c = '/' ∨ (special ∧ c = '\\') then readSegments special rest
    else readSegments special cs

/-- The path, and the query after it; a fragment is left out. -/
def splitQuery (special : Bool) (cs : List Char) : List Char × Option String :=
  let (path, rest) := cs.span fun c => c != '?' && c != '#'
  match rest with
  | '?' :: query =>
    (path, some (String.ofList
      (percentEncode (escapedInQuery special) (query.takeWhile (· != '#')))))
  | _ => (path, none)

/-! ### Whole locators -/

/-- Reads what follows the slashes of a scheme. -/
def readAfterSlashes (scheme : String) (cs : List Char) : Except UrlError Url := do
  let special := isSpecialScheme scheme
  let (authority, rest) ← readAuthority scheme cs
  let (path, query) := splitQuery special rest
  return ⟨scheme, some authority, .segments (readPath special path), query⟩

/-- Whether a text is a drive, as in `C:` or `C|`. -/
def isDriveLetter : List Char → Bool
  | [letter, mark] => letter.isAlpha && (mark == ':' || mark == '|')
  | _ => false

/-- Reads a locator of a file: two slashes come before a host, which may be
empty and is left out if it is this machine. -/
def readFile (cs : List Char) : Except UrlError Url := do
  let slash : Char → Bool := fun c => c == '/' || c == '\\'
  let noHost : Authority := ⟨"", "", .domain "", none⟩
  match cs with
  | a :: b :: rest =>
    if slash a && slash b then
      let name := rest.takeWhile fun c => !endsAuthority true c
      if name.isEmpty || isDriveLetter name then
        let (path, query) := splitQuery true rest
        return ⟨"file", some noHost, .segments (readPath true path), query⟩
      else
        let host ← specialHost name
        let authority : Authority :=
          if host = .domain "localhost" then noHost else ⟨"", "", host, none⟩
        let (path, query) := splitQuery true (rest.drop name.length)
        return ⟨"file", some authority, .segments (readPath true path), query⟩
    else
      let (path, query) := splitQuery true cs
      return ⟨"file", some noHost, .segments (readPath true path), query⟩
  | _ =>
    let (path, query) := splitQuery true cs
    return ⟨"file", some noHost, .segments (readPath true path), query⟩

namespace Url

/-- The characters of a locator that count. -/
def significant (cs : List Char) : List Char :=
  let outer : Char → Bool := fun c => c.toNat ≤ 0x20
  let trimmed := ((cs.dropWhile outer).reverse.dropWhile outer).reverse
  trimmed.filter fun c => c != '\t' && c != '\n' && c != '\r'

/-- Reads a locator. -/
def parse (text : String) : Except UrlError Url :=
  match readScheme? (significant text.toList) with
  | none => .error .relative
  | some (scheme, rest) =>
    if scheme = "file" then readFile rest
    else if isSpecialScheme scheme then
      readAfterSlashes scheme (rest.dropWhile fun c => c == '/' || c == '\\')
    else match rest with
      | '/' :: '/' :: rest => readAfterSlashes scheme rest
      | '/' :: rest =>
        let (path, query) := splitQuery false rest
        .ok ⟨scheme, none, .segments (readSegments false path), query⟩
      | _ =>
        let (path, query) := splitQuery false rest
        .ok ⟨scheme, none, .rootless (String.ofList (percentEncode isControlOrWide path)), query⟩

end Url

end EventQuery
