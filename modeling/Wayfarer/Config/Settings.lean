import Wayfarer.Number.Binary64

/-!
The settings of a crawler that follows redirects.

* `Unset`: the values of fields for which nothing is said;
* `RedirectSettings`: whether redirects are followed, how far, and what that does to priority;
* `RefreshSettings`: whether refresh directives in documents are followed;
* `ProxySettings`: which proxies are used;
* `TransportSettings`: how requests are sent;
* `Settings`: all four, with a default for every field;
* `Settings.Section`: the four by name.
-/

namespace Wayfarer

/-! ### Fields for which nothing is said -/

namespace Unset

/-- Redirects and refresh directives are followed, and chains count down. -/
def enabled : Bool := true

/-- How many hops a chain may have. -/
def maxHops : UInt32 := 20

/-- What a hop adds to the priority. -/
def priorityAdjust : Int := 2

/-- Below which delay, in seconds, a refresh directive is followed. -/
def maxDelay : Binary64 := Binary64.ofInt 100

/-- Inside which elements refresh directives are ignored. -/
def ignoredTags : List String := ["script", "noscript"]

/-- How many seconds to wait for a connection. -/
def connectTimeout : Nat := 10

/-- How many seconds to wait for an answer. -/
def timeout : Nat := 30

end Unset

/-! ### Sections -/

/-- Whether redirects are followed, how many in a chain, what a hop adds to the priority, and
whether each chain counts down its own allowance. -/
structure RedirectSettings where
  enabled : Bool := true
  maxHops : UInt32 := Unset.maxHops
  priorityAdjust : Int := Unset.priorityAdjust
  countdown : Bool := true
deriving Repr, DecidableEq, Inhabited

/-- Whether refresh directives are followed, below which delay in seconds, and inside which
elements they are ignored. -/
structure RefreshSettings where
  enabled : Bool := true
  maxDelay : Binary64 := Unset.maxDelay
  ignoredTags : List String := Unset.ignoredTags
deriving Repr, DecidableEq, Inhabited

/-- The proxies for the two schemes of the web, the hosts that need none, and whether the
environment names more of both. -/
structure ProxySettings where
  http : Option String := none
  https : Option String := none
  exempt : List String := []
  fromEnvironment : Bool := false
deriving Repr, DecidableEq, Inhabited

/-- How long to wait for a connection and for an answer, in seconds, and how to introduce
oneself. -/
structure TransportSettings where
  connectTimeout : Nat := Unset.connectTimeout
  timeout : Nat := Unset.timeout
  userAgent : Option String := none
deriving Repr, DecidableEq, Inhabited

/-- All settings. -/
structure Settings where
  redirect : RedirectSettings := {}
  refresh : RefreshSettings := {}
  proxy : ProxySettings := {}
  transport : TransportSettings := {}
deriving Repr, DecidableEq, Inhabited

/-- The sections of the settings. -/
inductive Settings.Section where
  | redirect
  | refresh
  | proxy
  | transport
deriving Repr, DecidableEq

end Wayfarer
