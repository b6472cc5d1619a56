import Wayfarer.Hop.Policy
import Wayfarer.Proxy.Rules

/-!
Policies one after the other.

* `PolicyChain`: the proxy rules for requests and the policies for responses;
* `PolicyChain.ofSettings`: the chain that settings describe;
* `PolicyChain.prepare`: a request ready to be sent;
* `PolicyChain.check`: the verdict of the first policy that does not pass a response on.
-/

namespace Wayfarer

/-- The proxy rules for requests and the policies for responses, in order. -/
structure PolicyChain where
  rules : ProxyRules
  policies : List ResponsePolicy

/-- The name under which the proxy rules are listed. -/
def ProxyRules.policyName : String := "proxy"

/-- The verdict of the first policy that does not pass a response on; policies that are skipped are
not asked. -/
def checkAll (c : Crawler) (skip : Option Skip) :
    List ResponsePolicy → Arrival → Except Failure Verdict
  | [], a => .ok (.pass a)
  | p :: ps, a =>
      if skip.any (·.skips p.name) then checkAll c skip ps a
      else
        match p.check c a with
        | .ok (.pass a) => checkAll c skip ps a
        | decided => decided

namespace PolicyChain

/-- The chain that settings and the environment describe. -/
def ofSettings (s : Settings) (vars : List (String × String)) :
    Except EndpointError PolicyChain :=
  (ProxyRules.ofSettings s.proxy vars).map fun rules =>
    ⟨rules, [.redirect s.redirect, .refresh s.refresh s.redirect]⟩

/-- The names of all policies in order. -/
def names (chain : PolicyChain) : List String :=
  ProxyRules.policyName :: chain.policies.map (·.name)

/-- A request ready to be sent. -/
def prepare (chain : PolicyChain) (req : Request) : Except EndpointError Request :=
  chain.rules.prepare req

/-- The verdict on a response; policies that its request is exempt from are not asked. -/
def check (chain : PolicyChain) (c : Crawler) (a : Arrival) : Except Failure Verdict :=
  checkAll c a.request.skip chain.policies a

end PolicyChain

end Wayfarer
