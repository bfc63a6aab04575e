import EventQuery.Options
import EventQuery.Url.Parser

/-!
How to reach the service: a key, a host and the options for writing queries.

A configuration is a JSON record or comes from environment variables.
`Config.base` is the locator that the host names, if requests can start from it.
-/

namespace EventQuery

/-- How to reach the service. -/
structure Config where
  authKey : String
  host : String
  options : QueryOptions
deriving Repr, DecidableEq

/-- Why a configuration cannot be used. -/
inductive ConfigError where
  | missingKey
  | invalidHost (host : String) (error : UrlError)
  | rootlessHost (host : String)
  | invalidKey
deriving Repr, DecidableEq

namespace Config

/-- The host of the service. -/
def defaultHost : String := "https://api.sentenai.com"

/-- The variable that holds the key. -/
def keyVariable : String := "SENTENAI_AUTH_KEY"

/-- The variable that holds the host. -/
def hostVariable : String := "SENTENAI_HOST"

/-- The configuration with this key and everything else as usual. -/
def ofKey (authKey : String) : Config := ⟨authKey, defaultHost, .default⟩

/-- A member of a record, or its default where it is missing. -/
def memberOr {α : Type} (fallback : α) (read : Document → Option α) :
    Option Document → Option α
  | some d => read d
  | none => some fallback

/-- Reads a configuration from a record; only the key has to be there. -/
def read? (d : Document) : Option Config := do
  match ← d.members? ["auth_key", "host", "ast"] with
  | [some key, host, options] =>
    return ⟨← key.string?, ← memberOr defaultHost Document.string? host,
      ← memberOr .default QueryOptions.read? options⟩
  | _ => none

/-- Reads a configuration from a text. -/
def parse? (text : String) : Option Config := (Document.read? text).bind read?

/-- The configuration as a JSON object. -/
def encode (c : Config) : Json :=
  .object [("auth_key", .string c.authKey), ("host", .string c.host), ("ast", c.options.encode)]

/-- The value of a variable, if it is set and not empty. -/
def nonEmpty? (environment : Fields String) (name : String) : Option String :=
  (Fields.find? name environment).filter (· != "")

/-- The configuration that environment variables tell: the key has to be set, the
host may be. -/
def ofVariables (environment : Fields String) : Except ConfigError Config :=
  match nonEmpty? environment keyVariable with
  | none => .error .missingKey
  | some key => .ok { ofKey key with host := (nonEmpty? environment hostVariable).getD defaultHost }

/-- Whether a key can be the value of a header: no control characters but
tabs. -/
def isHeaderValue (s : String) : Bool :=
  s.toList.all fun c => c == '\t' || (0x20 ≤ c.toNat && c.toNat != 0x7f)

/-- The locator that all requests start from. -/
def base (c : Config) : Except ConfigError Url :=
  match Url.parse c.host with
  | .error e => .error (.invalidHost c.host e)
  | .ok url => if url.isRootless then .error (.rootlessHost c.host) else .ok url

end Config

/-- The wording of an error, without saying that it is one of the
configuration. -/
def ConfigError.reason : ConfigError → String
  | missingKey => Config.keyVariable ++ " is not set"
  | invalidHost host error => "invalid host `" ++ host ++ "`: " ++ error.message
  | rootlessHost host => "host `" ++ host ++ "` cannot be used as a base URL"
  | invalidKey => "auth key is not a valid header value"

end EventQuery
