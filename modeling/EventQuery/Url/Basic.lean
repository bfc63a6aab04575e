import EventQuery.Text.Percent
import EventQuery.Url.Address

/-!
Resource locators.

A path is the list of what follows each of its slashes, in encoded form: `/` is
the list of one empty segment, and a path without segments is empty. A path may
also be rootless, and then nothing can be put below it.

* `Url.text` is the whole locator.
* `Url.appendSegments` puts segments below a path; whatever characters a segment
  has, it stays one segment.
-/

namespace EventQuery

/-- The host of a locator. -/
inductive Host where
  | domain (name : String)
  | ipv4 (address : Nat)
  | ipv6 (groups : List Nat)
deriving Repr, DecidableEq

/-- A host as text. -/
def Host.text : Host → String
  | domain name => name
  | ipv4 address => String.ofList (ipv4Text address)
  | ipv6 groups => String.ofList ('[' :: (ipv6Text groups ++ [']']))

/-- Who asks and where: user, password, host and port number. -/
structure Authority where
  user : String
  password : String
  host : Host
  portNumber : Option Nat
deriving Repr, DecidableEq

/-- An authority as text. -/
def Authority.text (a : Authority) : String :=
  let password := if a.password = "" then "" else ":" ++ a.password
  let credentials := a.user ++ password
  let ending := match a.portNumber with
    | some p => ":" ++ integerText p
    | none => ""
  (if credentials = "" then "" else credentials ++ "@") ++ a.host.text ++ ending

/-- The path of a locator. -/
inductive UrlPath where
  | rootless (text : String)
  | segments (names : List String)
deriving Repr, DecidableEq

/-- The text of a list of segments. -/
def segmentsText (names : List String) : String := String.join (names.map ("/" ++ ·))

/-- A path as text. -/
def UrlPath.text : UrlPath → String
  | rootless text => text
  | segments names => segmentsText names

/-- A resource locator, without its fragment. -/
structure Url where
  scheme : String
  authority : Option Authority
  path : UrlPath
  query : Option String
deriving Repr, DecidableEq

namespace Url

/-- The locator as text. A path that starts with two slashes is kept apart from
an authority. -/
def text (u : Url) : String :=
  let front := match u.authority, u.path with
    | some a, _ => "//" ++ a.text
    | none, .segments ("" :: _ :: _) => "/."
    | none, _ => ""
  let query := match u.query with
    | some q => "?" ++ q
    | none => ""
  u.scheme ++ ":" ++ front ++ u.path.text ++ query

/-- Whether nothing can be put below the path. -/
def isRootless (u : Url) : Bool :=
  match u.path with
  | .rootless _ => true
  | .segments _ => false

/-! ### Putting segments below a path -/

/-- A segment as it stands in a path: tabs and line ends vanish, and what would
end the segment or be read as an escape is written as bytes. -/
def encodeSegment (segment : String) : String :=
  String.ofList (percentEncode escapedInSegment
    (segment.toList.filter fun c => c != '\t' && c != '\n' && c != '\r'))

/-- The path without its last segment, if that is empty and not the only one. -/
def trimPath (names : List String) : List String :=
  match names.reverse with
  | "" :: front :: rest => (front :: rest).reverse
  | _ => names

/-- One segment below a path: after the last slash of a path that is nothing but
a slash, else after a slash of its own. -/
def pushSegment (names : List String) (segment : String) : List String :=
  if names = [] ∨ names = [""] then [segment] else names ++ [segment]

/-- Puts one segment below a path. The segments `.` and `..` are passed over; a
segment that becomes one of them only when tabs and line ends are gone keeps its
meaning: the same place, or the place above. -/
def appendSegment (names : List String) (segment : String) : List String :=
  if segment = "." ∨ segment = ".." then names
  else
    let encoded := encodeSegment segment
    if encoded = "." then pushSegment names ""
    else if encoded = ".." then (if names.length ≤ 1 then [""] else names.dropLast ++ [""])
    else pushSegment names encoded

/-- Puts segments below the path of a locator, in place of an empty segment at
its end. -/
def appendSegments (u : Url) (segments : List String) : Url :=
  match u.path with
  | .rootless _ => u
  | .segments names => { u with path := .segments (segments.foldl appendSegment (trimPath names)) }

/-- Adds fields to the query. -/
def addQuery (u : Url) (fields : List (String × String)) : Url :=
  if fields = [] then u
  else
    { u with query := some (match u.query with
        | some q => (if q = "" then "" else q ++ "&") ++ formEncode fields
        | none => formEncode fields) }

end Url

end EventQuery
