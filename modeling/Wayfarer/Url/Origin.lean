import Wayfarer.Url.Basic
import Wayfarer.Text.Letters

/-!
The schemes of the web and the origins of URLs.

* `HttpScheme`: the schemes under which redirects are followed;
* `Url.isHttp`: whether a URL has one of them;
* `Origin`: scheme, host and port; `Origin.of` reads them off a URL and `Origin.text` writes them;
* `Url.sameOrigin`: whether two URLs have one origin.
-/

namespace Wayfarer

/-! ### Schemes of the web -/

/-- The schemes under which redirects are followed. -/
inductive HttpScheme where
  | http
  | https
deriving Repr, DecidableEq

namespace HttpScheme

/-- The scheme as a URL writes it. -/
def text : HttpScheme → String
  | http => "http"
  | https => "https"

/-- The scheme that a text names in any case. -/
def ofString? (s : String) : Option HttpScheme :=
  if sameLetters s "http" then some http
  else if sameLetters s "https" then some https
  else none

/-- The port of the scheme. -/
def defaultPort : HttpScheme → Nat
  | http => 80
  | https => 443

end HttpScheme

/-- Whether redirects of a URL are followed. -/
def Url.isHttp (u : Url) : Bool :=
  (HttpScheme.ofString? u.scheme).isSome

/-! ### Origins -/

/-- Scheme, host and port, where the port is the one in effect. A URL without a host has the empty
one. -/
structure Origin where
  scheme : String
  host : String
  port : Option Nat
deriving Repr, DecidableEq

namespace Origin

/-- The origin of a URL. -/
def of (u : Url) : Origin :=
  ⟨lowered u.scheme, lowered (u.hostText?.getD ""), u.effectivePort?⟩

/-- The port that need not be written. -/
def impliedPort? (o : Origin) : Option Nat :=
  (HttpScheme.ofString? o.scheme).map HttpScheme.defaultPort

/-- The origin as text. -/
def text (o : Origin) : String :=
  o.scheme ++ "://" ++ o.host ++
    match o.port with
    | some port => if some port = o.impliedPort? then "" else ":" ++ toString port
    | none => ""

end Origin

/-- Whether two URLs have one origin. -/
def Url.sameOrigin (u v : Url) : Bool :=
  Origin.of u = Origin.of v

end Wayfarer
