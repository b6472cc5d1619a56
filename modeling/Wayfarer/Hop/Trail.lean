/-!
The record of a chain of redirects.

* `Reason`: why a hop was made;
* `Limits`: how long a chain may grow;
* `Trail`: the hops made so far, where they started and why;
* `Trail.advance`: the trail after one more hop, unless a limit is reached;
* `LimitExceeded`: the hop that a limit refused.

Hops are counted in thirty-two bits. Behind the greatest number the count begins again at zero.
-/

namespace Wayfarer

/-- Why a hop was made. -/
inductive Reason where
  /-- The status code of the response. -/
  | status (code : Nat)
  /-- A refresh directive in the document. -/
  | refresh
deriving Repr, DecidableEq

/-- The reason as text. -/
def Reason.text : Reason → String
  | status code => toString code
  | refresh => "meta refresh"

/-- How long a chain may grow: to `maxHops` hops and, if `countdown` holds, to as many as the chain
itself still allows. -/
structure Limits where
  maxHops : UInt32
  countdown : Bool
deriving Repr, DecidableEq

/-- The hop that a limit refused: where it started and which one of its chain it was. -/
structure LimitExceeded where
  url : String
  hops : UInt32
deriving Repr, DecidableEq

/-- The record of a chain: the number of its hops, how many it still allows if it says so, and
where and why each hop was made. -/
structure Trail where
  hops : UInt32
  allowance : Option UInt32
  urls : List String
  reasons : List Reason
deriving Repr, DecidableEq

namespace Trail

/-- The trail of a chain without hops. -/
def start : Trail :=
  ⟨0, none, [], []⟩

instance : Inhabited Trail := ⟨start⟩

/-- The trail of a chain that allows a number of hops. -/
def withAllowance (n : UInt32) : Trail :=
  { start with allowance := some n }

/-- The allowance after one more hop: a chain that names none starts from the limit. -/
def spend (t : Trail) (limits : Limits) : Option (Option UInt32) :=
  if limits.countdown then
    let remaining := t.allowance.getD limits.maxHops
    if remaining = 0 then none else some (some (remaining - 1))
  else some t.allowance

/-- The trail after a hop from `url`. -/
def advance (t : Trail) (url : String) (reason : Reason) (limits : Limits) :
    Except LimitExceeded Trail :=
  let hops := t.hops + 1
  if limits.maxHops < hops then .error ⟨url, hops⟩
  else match t.spend limits with
    | none => .error ⟨url, hops⟩
    | some allowance => .ok ⟨hops, allowance, t.urls ++ [url], t.reasons ++ [reason]⟩

end Trail

end Wayfarer
