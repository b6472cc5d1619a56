import Mathlib.Logic.Relation
import Mathlib.Tactic
import Wayfarer.Proofs.Hop.Continuation
import Wayfarer.Proofs.Proxy.Prepare

/-!
The course of a journey, step by step.

* `Journey.urls`: the URLs of a journey in order;
* `Journey.Step`: the latest request is made ready to be sent, or a policy continues the journey;
  a course is any number of steps, in any order;
* `Journey.urls_of_prepare`, `Journey.urls_of_continues`: what a step adds to the URLs;
* `Journey.proxyValues_of_continues`: the credentials for a proxy that a hop keeps;
* `ProxyRules.one`, `Url.front`, `Journey.continues_elsewhere`: rules, URLs and hops of which the
  courses of particular requests are made.
-/

namespace Wayfarer

namespace Journey

variable {j next : Journey} {rules : ProxyRules} {s : RedirectSettings} {req : Request}

/-- The URLs of a journey in order. -/
def urls (j : Journey) : List Url :=
  j.requests.map (·.url)

/-- One step of a journey under proxy rules: its latest request is made ready to be sent, or a
policy continues it. -/
inductive Step (rules : ProxyRules) : Journey → Journey → Prop
  | prepare {j : Journey} {req : Request} (ready : rules.prepare j.request = .ok req) :
      Step rules j { j with request := req }
  | hop {s : RedirectSettings} {j next : Journey} (continues : j.Continues s next) :
      Step rules j next

@[simp] lemma urls_start (req : Request) : (Journey.start req).urls = [req.url] := rfl

/-- The latest URL comes last. -/
lemma urls_eq (j : Journey) : j.urls = j.past.reverse.map (·.url) ++ [j.request.url] := by
  rw [urls, requests, List.map_append]
  rfl

lemma url_mem_urls (j : Journey) : j.request.url ∈ j.urls := by
  rw [urls_eq]
  exact List.mem_append_right _ (List.mem_singleton_self _)

/-- Making a request ready leaves the URLs as they are. -/
lemma urls_of_prepare (ready : rules.prepare j.request = .ok req) :
    Journey.urls { j with request := req } = j.urls := by
  rw [urls_eq, urls_eq, ProxyRules.url_of_prepare ready]

/-- A hop adds its target to the URLs. -/
lemma urls_of_continues (continues : j.Continues s next) :
    next.urls = j.urls ++ [next.request.url] := by
  obtain ⟨past, _⟩ := continues.exists_follow
  rw [urls_eq, urls_eq, past]
  simp

/-- A hop keeps the credentials for a proxy if their owner is known after it. -/
lemma proxyValues_of_continues (continues : j.Continues s next) :
    next.request.proxyValues =
      if next.request.proxy.owner.isNone then [] else j.request.proxyValues := by
  obtain ⟨_, proxy, e, headers⟩ := continues.exists_follow
  rw [Request.proxyValues, headers, getAll_followHeaders_proxyAuthorization, proxy]
  rfl

end Journey

/-! ### Particular courses -/

/-- One rule, for a proxy with credentials, and hosts that need none. -/
def ProxyRules.one (scheme : String) (exempt : List String) : ProxyRules :=
  ⟨[(scheme, ⟨"http://[::9]:3128", some ⟨"user", "pw"⟩⟩)], exempt⟩

/-- The front page of the host `[::n]`. -/
def Url.front (scheme : String) (n : Nat) : Url where
  scheme
  authority := some ⟨"", "", some (.ipv6 [0, 0, 0, 0, 0, 0, 0, n]), none⟩
  path := .names [""]
  query := none
  fragment := none

/-- The answer that what was asked for is at another place. -/
def Response.elsewhere (url target : Url) : Response where
  status := .found
  url
  headers := Headers.ofPairs [("location", target.text.toUTF8.toList)]
  body := []

/-- Such an answer is followed, with the settings that hold by default. -/
lemma Journey.continues_elsewhere {j next : Journey} (target : Url)
    (leads : redirectTarget? {} default j.request (.elsewhere j.request.url target) =
      some (target, .read))
    (made : hop {} j target .read (.status Status.found.code) = .ok next) :
    j.Continues {} next :=
  .of_target leads made

end Wayfarer
