import Wayfarer.Url.Address

/-!
Absolute URLs.

* `Host`: a name or a numeric address;
* `Authority`: credentials, host and port;
* `Path`: the names between slashes, or a text that is no hierarchy;
* `Url`: the parts of a URL, each in the form in which it is written;
* `Url.text`: the URL written down;
* `Scheme.isSpecial`, `Scheme.defaultPort?`: what a scheme says about the URLs under it;
* `UrlError`: why a text is no URL.
-/

namespace Wayfarer

/-! ### Schemes -/

namespace Scheme

/-- The scheme of local files. -/
def file : String := "file"

/-- The schemes whose URLs always have an authority and a path. -/
def isSpecial (scheme : String) : Bool :=
  scheme ∈ ["http", "https", "ws", "wss", "ftp", file]

/-- The port that a scheme uses if its URL names none. -/
def defaultPort? (scheme : String) : Option Nat :=
  if scheme = "http" ∨ scheme = "ws" then some 80
  else if scheme = "https" ∨ scheme = "wss" then some 443
  else if scheme = "ftp" then some 21
  else none

end Scheme

/-! ### Parts of a URL -/

/-- The host that a URL names. -/
inductive Host where
  | name (text : String)
  | ipv4 (address : Nat)
  | ipv6 (pieces : List Nat)
deriving Repr, DecidableEq

/-- A host as a URL writes it. -/
def Host.text : Host → String
  | name text => text
  | ipv4 address => Ipv4.text address
  | ipv6 pieces => "[" ++ Ipv6.text pieces ++ "]"

/-- What a URL says about the place of a resource. An empty password is none, and so is an empty
user name. A port that the scheme implies is left out. -/
structure Authority where
  username : String
  password : String
  host : Option Host
  port : Option Nat
deriving Repr, DecidableEq

namespace Authority

/-- The credentials in front of a host. -/
def userinfo (a : Authority) : String :=
  if a.username.isEmpty && a.password.isEmpty then ""
  else if a.password.isEmpty then a.username ++ "@"
  else a.username ++ ":" ++ a.password ++ "@"

/-- The port behind a host. -/
def portText (a : Authority) : String :=
  match a.port with
  | some port => ":" ++ toString port
  | none => ""

/-- An authority as a URL writes it. -/
def text (a : Authority) : String :=
  a.userinfo ++ (a.host.map Host.text).getD "" ++ a.portText

end Authority

/-- The path of a URL: a text of its own kind, or names that a slash precedes each. -/
inductive Path where
  | opaqueText (text : String)
  | names (segments : List String)
deriving Repr, DecidableEq

/-- A path as a URL writes it. -/
def Path.text : Path → String
  | opaqueText text => text
  | names segments => String.join (segments.map ("/" ++ ·))

/-- An absolute URL. -/
structure Url where
  scheme : String
  authority : Option Authority
  path : Path
  query : Option String
  fragment : Option String
deriving Repr, DecidableEq

namespace Url

/-! ### Parts and their text -/

/-- Whether references can be relative to the URL. -/
def isHierarchical (u : Url) : Bool :=
  match u.path with
  | .names _ => true
  | .opaqueText _ => false

/-- The names of the path. -/
def segments (u : Url) : List String :=
  match u.path with
  | .names segments => segments
  | .opaqueText _ => []

/-- The host. -/
def host? (u : Url) : Option Host :=
  u.authority.bind (·.host)

/-- The host as text. -/
def hostText? (u : Url) : Option String :=
  u.host?.map Host.text

/-- The port that the URL names. -/
def port? (u : Url) : Option Nat :=
  u.authority.bind (·.port)

/-- The port that the URL names or its scheme implies. -/
def effectivePort? (u : Url) : Option Nat :=
  u.port?.or (Scheme.defaultPort? u.scheme)

/-- The user name, empty if there is none. -/
def username (u : Url) : String :=
  (u.authority.map (·.username)).getD ""

/-- The password, empty if there is none. -/
def password (u : Url) : String :=
  (u.authority.map (·.password)).getD ""

/-- What stands between the scheme and the query. Without an authority a path of which the first
name is empty would read as one, which a name of one dot prevents. -/
def body (u : Url) : String :=
  match u.authority, u.path with
  | some a, path => "//" ++ a.text ++ path.text
  | none, .names ("" :: name :: rest) => "/." ++ (Path.names ("" :: name :: rest)).text
  | none, path => path.text

/-- The URL written down. -/
def text (u : Url) : String :=
  u.scheme ++ ":" ++ u.body ++ (u.query.map ("?" ++ ·)).getD "" ++
    (u.fragment.map ("#" ++ ·)).getD ""

end Url

/-! ### Errors -/

/-- Why a text is no URL. -/
inductive UrlError where
  | emptyHost
  | invalidName
  | invalidPort
  | invalidIpv4
  | invalidIpv6
  | invalidHostCharacter
  | noBase
  | baseNotHierarchical
deriving Repr, DecidableEq

/-- The error in words. -/
def UrlError.message : UrlError → String
  | emptyHost => "empty host"
  | invalidName => "invalid international domain name"
  | invalidPort => "invalid port number"
  | invalidIpv4 => "invalid IPv4 address"
  | invalidIpv6 => "invalid IPv6 address"
  | invalidHostCharacter => "invalid domain character"
  | noBase => "relative URL without a base"
  | baseNotHierarchical => "relative URL with a cannot-be-a-base base"

end Wayfarer
