import Wayfarer.Config.Settings
import Wayfarer.Datum.Basic
import Wayfarer.Number.Decimal
import Wayfarer.Number.Width

/-!
Settings read from data.

* `Reading`: how the values of data become values of settings;
* `Reading.exact`: a value is what it is;
* `Reading.lenient`: truth values, numbers and texts become one another where that makes sense;
* `Settings.read`: the settings that data give, with the default for whatever they leave out.
-/

namespace Wayfarer

/-- How the values of data become values of settings: truth values, counts and signed amounts of
32 bits, seconds of 64 bits, numbers of double precision and texts. `allowsMore` tells whether a
list that gives the fields of a record by place may have more items than the record has fields. -/
structure Reading where
  bool : Datum → Option Bool
  count : Datum → Option UInt32
  amount : Datum → Option Int
  seconds : Datum → Option Nat
  real : Datum → Option Binary64
  text : Datum → Option String
  allowsMore : Bool

namespace Reading

/-! ### Values as they are -/

/-- An integer between two bounds. -/
def intBetween? (least most : Int) : Datum → Option Int
  | .int n => if least ≤ n ∧ n ≤ most then some n else none
  | _ => none

/-- A natural number up to a bound. -/
def natUpTo? (most : Nat) (d : Datum) : Option Nat :=
  (intBetween? 0 most d).map Int.toNat

/-- A reading in which a value is what it is; only an integer is a number of double precision
too. -/
def exact : Reading where
  bool
    | .bool b => some b
    | _ => none
  count d := (natUpTo? (Width.count32 - 1) d).map UInt32.ofNat
  amount := intBetween? Width.least32 Width.most32
  seconds := natUpTo? (Width.count64 - 1)
  real
    | .real x => some x
    | .int n => some (Binary64.ofInt n)
    | _ => none
  text
    | .text s => some s
    | _ => none
  allowsMore := false

/-! ### Values that become one another -/

/-- The words for what holds. -/
def affirmations : List String := ["true", "on", "yes"]

/-- The words for what does not hold. -/
def negations : List String := ["false", "off", "no"]

/-- What a word says to hold or not to hold. -/
def verdict? (s : String) : Option Bool :=
  if affirmations.contains (lowered s) then some true
  else if negations.contains (lowered s) then some false
  else none

/-- A truth value: numbers other than zero hold, and so do words that say so. -/
def truth? : Datum → Option Bool
  | .bool b => some b
  | .int n => some (n ≠ 0)
  | .real x => some (x.magnitude ≠ 0)
  | .text s => if s = "1" then some true else if s = "0" then some false else verdict? s
  | _ => none

/-- The integer of some bounds nearest to another. -/
def clampInt (least most n : Int) : Int :=
  max least (min n most)

/-- An integer between bounds. A number is rounded to the nearest one, and what is none is zero. -/
def integer? (least most : Int) : Datum → Option Int
  | .int n => if least ≤ n ∧ n ≤ most then some n else none
  | .bool b => some (if b then 1 else 0)
  | .real x => some (if x.isNaN then 0 else clampInt least most x.round)
  | .text s =>
      match verdict? s with
      | some b => some (if b then 1 else 0)
      | none =>
          match Decimal.readInt? s.toList with
          | some n =>
              if n < least ∨ most < n ∨ (0 ≤ least ∧ s.toList.head? = some '-') then none
              else some n
          | none => none
  | _ => none

/-- A natural number of 64 bits. -/
def natural? (d : Datum) : Option Nat :=
  (integer? 0 (Width.count64 - 1) d).map Int.toNat

/-- The lowest 32 bits of an integer of 64 bits, with a sign. -/
def amount32? (d : Datum) : Option Int :=
  (integer? Width.least64 Width.most64 d).map (Int.bmod · Width.count32)

/-- A number of double precision. -/
def number? : Datum → Option Binary64
  | .real x => some x
  | .int n => some (Binary64.ofInt n)
  | .bool b => some (Binary64.ofInt (if b then 1 else 0))
  | .text s =>
      match verdict? s with
      | some b => some (Binary64.ofInt (if b then 1 else 0))
      | none => Decimal.readNumber? s
  | _ => none

/-- A text; what is none is written out. -/
def words? : Datum → Option String
  | .text s => some s
  | .bool b => some (if b then "true" else "false")
  | .int n => some (toString n)
  | .real x => some x.plainText
  | _ => none

/-- A reading in which truth values, numbers and texts become one another. A count keeps the lowest
32 bits. -/
def lenient : Reading where
  bool := truth?
  count d := (natural? d).map UInt32.ofNat
  amount := amount32?
  seconds := natural?
  real := number?
  text := words?
  allowsMore := true

/-! ### Records -/

/-- What a record gives under each of its keys. A list gives the fields by place and may end early,
but not before a field that is `needed`. -/
def record? (r : Reading) (keys : List String) (needed : Nat) :
    Datum → Option (String → Option Datum)
  | .table fields => some fun key => Datum.lookup key fields
  | .list items =>
      if items.length < needed || (!r.allowsMore && keys.length < items.length) then none
      else some fun key => Datum.lookup key (keys.zip items)
  | _ => none

/-- What is given, or a default. -/
def orDefault {α : Type} (default : α) (read : Datum → Option α) : Option Datum → Option α
  | none => some default
  | some d => read d

/-- A value that may be absent. -/
def optional? {α : Type} (read : Datum → Option α) : Datum → Option (Option α)
  | .null => some none
  | d => (read d).map some

/-- A list of texts. -/
def texts? (r : Reading) : Datum → Option (List String)
  | .list items => items.mapM r.text
  | _ => none

end Reading

open Reading

/-! ### Settings -/

/-- The settings for redirects that data give. -/
def RedirectSettings.read (r : Reading) (d : Datum) : Option RedirectSettings := do
  let field ← r.record? ["enabled", "max_times", "priority_adjust", "ttl_enabled"] 0 d
  let enabled ← orDefault Unset.enabled r.bool (field "enabled")
  let maxHops ← orDefault Unset.maxHops r.count (field "max_times")
  let priorityAdjust ← orDefault Unset.priorityAdjust r.amount (field "priority_adjust")
  let countdown ← orDefault Unset.enabled r.bool (field "ttl_enabled")
  some { enabled, maxHops, priorityAdjust, countdown }

/-- The settings for refresh directives that data give. -/
def RefreshSettings.read (r : Reading) (d : Datum) : Option RefreshSettings := do
  let field ← r.record? ["enabled", "max_delay", "ignore_tags"] 0 d
  let enabled ← orDefault Unset.enabled r.bool (field "enabled")
  let maxDelay ← orDefault Unset.maxDelay r.real (field "max_delay")
  let ignoredTags ← orDefault Unset.ignoredTags r.texts? (field "ignore_tags")
  some { enabled, maxDelay, ignoredTags }

/-- The settings for proxies that data give. -/
def ProxySettings.read (r : Reading) (d : Datum) : Option ProxySettings := do
  let field ← r.record? ["http", "https", "no_proxy", "from_env"] 2 d
  let http ← orDefault none (optional? r.text) (field "http")
  let https ← orDefault none (optional? r.text) (field "https")
  let exempt ← orDefault [] r.texts? (field "no_proxy")
  let fromEnvironment ← orDefault false r.bool (field "from_env")
  some { http, https, exempt, fromEnvironment }

/-- The settings for sending that data give. -/
def TransportSettings.read (r : Reading) (d : Datum) : Option TransportSettings := do
  let field ← r.record? ["connect_timeout_secs", "timeout_secs", "user_agent"] 3 d
  let connectTimeout ← orDefault Unset.connectTimeout r.seconds (field "connect_timeout_secs")
  let timeout ← orDefault Unset.timeout r.seconds (field "timeout_secs")
  let userAgent ← orDefault none (optional? r.text) (field "user_agent")
  some { connectTimeout, timeout, userAgent }

/-- The settings that data give. A section that is left out is the default one; in a section that is
there each field that is left out has the value for fields of which nothing is said. -/
def Settings.read (r : Reading) (d : Datum) : Option Settings := do
  let field ← r.record? ["redirect", "meta_refresh", "proxy", "http"] 0 d
  let redirect ← orDefault {} (RedirectSettings.read r) (field "redirect")
  let refresh ← orDefault {} (RefreshSettings.read r) (field "meta_refresh")
  let proxy ← orDefault {} (ProxySettings.read r) (field "proxy")
  let transport ← orDefault {} (TransportSettings.read r) (field "http")
  some { redirect, refresh, proxy, transport }

end Wayfarer
