import Wayfarer.Config.Settings
import Wayfarer.Hop.Request
import Wayfarer.Proxy.Endpoint
import Wayfarer.Url.Origin

/-!
Which proxy a request goes through.

* `ProxyRules`: a proxy for each scheme and the hosts that need none;
* `ProxyRules.withProxy`, `ProxyRules.withExempt`, `ProxyRules.withVariables`,
  `ProxyRules.ofSettings`: rules from settings and from the environment;
* `ProxyRules.exempts`: whether a URL needs no proxy;
* `ProxyRules.select`: the proxy of a request, and whether a rule chose it;
* `ProxyRules.prepare`: a request ready to be sent: it carries the credentials of its proxy and of
  no other.
-/

namespace Wayfarer

/-- A proxy for each scheme, the latest rule first, and the hosts that need none. -/
structure ProxyRules where
  byScheme : List (String × Endpoint)
  exempt : List String
deriving Repr, DecidableEq

namespace ProxyRules

/-- No rules. -/
def empty : ProxyRules :=
  ⟨[], []⟩

instance : Inhabited ProxyRules := ⟨empty⟩

/-- The proxy for a scheme. -/
def rule? (r : ProxyRules) (scheme : String) : Option Endpoint :=
  (r.byScheme.find? (·.1 = scheme)).map (·.2)

/-! ### Making rules -/

/-- The rules with a proxy for a scheme in place of the one before. -/
def setRule (r : ProxyRules) (scheme : String) (e : Endpoint) : ProxyRules :=
  { r with byScheme := (scheme, e) :: r.byScheme }

/-- The rules with the proxy that a text names. -/
def withProxy (r : ProxyRules) (scheme raw : String) : Except EndpointError ProxyRules :=
  (Endpoint.parse raw).map (r.setRule (lowered scheme))

/-- A host in the form in which exemptions are kept. -/
def exemption (host : String) : String :=
  lowered (trimBlanks host)

/-- The rules with further hosts that need no proxy. -/
def withExempt (r : ProxyRules) (hosts : List String) : ProxyRules :=
  { r with exempt := r.exempt ++ hosts.map exemption }

/-! ### Rules from the environment -/

/-- The variable with the hosts that need no proxy. -/
def exemptKey : String := "no_proxy"

/-- The scheme that a variable in small letters is for. -/
def schemeOfKey? (key : String) : Option String :=
  match "_proxy".toList.isSuffixOf? key.toList with
  | some [] => none
  | some scheme => some (String.ofList scheme)
  | none => none

/-- Whether a variable is not written in capitals only. -/
def hasSmallLetter (key : String) : Bool :=
  key.toList.any Char.isLower

/-- The variables with a value, their names in small letters and their values without blanks at
the ends; first those in capitals only, then the others. -/
def ranked (vars : List (String × String)) : List (String × String) :=
  let set := (vars.map fun (key, value) => (key, trimBlanks value)).filter fun v => !v.2.isEmpty
  let (small, capital) := set.partition fun v => hasSmallLetter v.1
  (capital ++ small).map fun (key, value) => (lowered key, value)

/-- The rules after one variable. A value that names no proxy changes nothing. -/
def readVariable (r : ProxyRules) (var : String × String) : ProxyRules :=
  if var.1 = exemptKey then r
  else match schemeOfKey? var.1, Endpoint.parse var.2 with
    | some scheme, .ok e => r.setRule scheme e
    | _, _ => r

/-- The items of a list with commas, those of blanks only left out. -/
def listItems (value : String) : List String :=
  ((splitAtEvery (· = ',') value.toList).map String.ofList).filter fun item =>
    !(trimBlanks item).isEmpty

/-- The rules with what the environment says. Of variables of one meaning the last counts, and
those in capitals only come first. -/
def withVariables (r : ProxyRules) (vars : List (String × String)) : ProxyRules :=
  let vars := ranked vars
  let r := vars.foldl readVariable r
  match (vars.filter (·.1 = exemptKey)).getLast? with
  | some (_, value) => r.withExempt (listItems value)
  | none => r

/-- The rules of settings, with those of the environment if the settings ask for them. -/
def ofSettings (s : ProxySettings) (vars : List (String × String)) :
    Except EndpointError ProxyRules := do
  let r ← match s.http with
    | some raw => empty.withProxy "http" raw
    | none => pure empty
  let r ← match s.https with
    | some raw => r.withProxy "https" raw
    | none => pure r
  let r := r.withExempt s.exempt
  return if s.fromEnvironment then r.withVariables vars else r

/-! ### Choosing -/

/-- Whether a host is one that an exemption means: itself, or under it. -/
def matchesHost (entry host : String) : Bool :=
  host = entry || ('.' :: entry.toList).isSuffixOf host.toList

/-- Whether an exemption covers a host, possibly with a port. -/
def coversHost (entry host : String) (port : Option Nat) : Bool :=
  entry = "*" ||
    let entry := String.ofList (trimStart (· = '.') entry.toList)
    matchesHost entry host ||
      (port.map fun p => matchesHost entry (host ++ ":" ++ toString p)).getD false

/-- Whether a URL needs no proxy. -/
def exempts (r : ProxyRules) (u : Url) : Bool :=
  match u.hostText? with
  | some host => r.exempt.any fun entry => coversHost entry (lowered host) u.port?
  | none => false

/-- The proxy of a request, and whether a rule chose it. What the caller asks for comes first. -/
def select (r : ProxyRules) (s : ProxyState) (u : Url) :
    Except EndpointError (Option Endpoint × Bool) :=
  if s.direct then .ok (none, false)
  else match s.proxy with
    | some raw => (Endpoint.parse raw).map fun e => (some e, false)
    | none =>
        match r.rule? u.scheme with
        | some e => if u.isHttp && r.exempts u then .ok (none, false) else .ok (some e, true)
        | none => .ok (none, false)

/-! ### Credentials -/

/-- The request with a proxy in use. -/
def assign (req : Request) (proxy : Option String) (byScheme : Bool) : Request :=
  { req with proxy := { req.proxy with proxy, byScheme := byScheme || req.proxy.byScheme } }

/-- The request with credentials that belong to its proxy. -/
def present (req : Request) (c : Credentials) : Request :=
  { req with
    headers := req.headers.insert .proxyAuthorization c.field
    proxy := { req.proxy with owner := req.proxy.proxy } }

/-- The request without credentials for a proxy. -/
def disown (req : Request) : Request :=
  { req with
    headers := req.headers.erase .proxyAuthorization
    proxy := { req.proxy with owner := none } }

/-- The request with credentials only for the proxy in use: those of another proxy go, and those
that nobody owns become its own. -/
def reconcile (req : Request) : Request :=
  match req.proxy.owner with
  | some owner => if req.proxy.proxy = some owner then req else disown req
  | none =>
      if req.headers.contains .proxyAuthorization then
        match req.proxy.proxy with
        | some proxy => { req with proxy := { req.proxy with owner := some proxy } }
        | none => disown req
      else req

/-- The request ready to be sent. -/
def prepare (r : ProxyRules) (req : Request) : Except EndpointError Request := do
  let (endpoint, byScheme) ← r.select req.proxy req.url
  let req := assign req (endpoint.map (·.address)) byScheme
  return match endpoint.bind (·.credentials) with
    | some c => present req c
    | none => reconcile req

end ProxyRules

end Wayfarer
