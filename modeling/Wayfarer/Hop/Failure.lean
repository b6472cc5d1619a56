import Wayfarer.Hop.Target
import Wayfarer.Hop.Trail
import Wayfarer.Proxy.Endpoint

/-!
Why there is no answer.

* `Failure`: the causes for which a request or a whole chain is given up;
* `Failure.message`: the cause in words;
* `Failure.dropsChain`: whether the chain was too long.
-/

namespace Wayfarer

/-- Why there is no answer. -/
inductive Failure where
  | tooManyHops (limit : LimitExceeded)
  | malformedTarget (detail : String)
  | invalidProxy (detail : String)
  | network (detail : String)
  | io (detail : String)
  | parse (detail : String)
deriving Repr, DecidableEq

namespace Failure

/-- The failure of a target that names no URL. -/
def ofTarget (e : TargetError) : Failure :=
  malformedTarget e.detail

/-- The failure of a text that names no proxy. -/
def ofEndpoint (e : EndpointError) : Failure :=
  invalidProxy e.detail

/-- The failure in words. -/
def message : Failure → String
  | tooManyHops limit =>
      "Redirect limit exceeded after " ++ toString limit.hops ++ " hops: " ++ limit.url
  | malformedTarget detail => "Malformed redirect target: " ++ detail
  | invalidProxy detail => "Invalid proxy: " ++ detail
  | network detail => "Network error: " ++ detail
  | io detail => "IO error: " ++ detail
  | parse detail => "Parsing error: " ++ detail

/-- Whether the chain was too long. -/
def dropsChain : Failure → Bool
  | tooManyHops _ => true
  | _ => false

end Failure

end Wayfarer
