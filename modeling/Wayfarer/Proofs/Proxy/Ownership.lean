import Wayfarer.Proofs.Hop.Course

/-!
Whose credentials for a proxy a request carries.

* `Logged`: a course on which the caller may also name another proxy or change its mind about
  wanting one, with the requests that were made ready on it;
* `ProxyRules.Selects`: the proxy that a request goes through once it is made ready;
* `Presented`, `Adopted`: the two ways in which values come to belong to a proxy: its credentials
  were presented, or it was the first one to be used with values that nobody owned;
* `Owned`: what holds on every course: values that belong to a proxy came to it in one of these
  ways, and values that belong to nobody are those of the first request, not yet made ready;
* `owner_of_logged`: a request that is made ready carries values of the proxy that it goes through,
  and of no other.
-/

namespace Wayfarer

variable {rules : ProxyRules} {start : Request} {log : List Request} {j next : Journey}
variable {s : RedirectSettings} {req : Request} {p : String} {values : List FieldValue}

/-- What comes of a request under proxy rules, step by step: it is made ready to be sent, a policy
continues the journey, or the caller overwrites the proxy of the latest request or its wish for
none. The list has the requests that were made ready, each as it was before, in order. -/
inductive Logged (rules : ProxyRules) (start : Request) : List Request → Journey → Prop
  | start : Logged rules start [] (Journey.start start)
  | prepare {log : List Request} {j : Journey} {req : Request} (logged : Logged rules start log j)
      (ready : rules.prepare j.request = .ok req) :
      Logged rules start (log ++ [j.request]) { j with request := req }
  | hop {log : List Request} {s : RedirectSettings} {j next : Journey}
      (logged : Logged rules start log j) (continues : j.Continues s next) :
      Logged rules start log next
  | editProxy {log : List Request} {j : Journey} (logged : Logged rules start log j)
      (proxy : Option String) :
      Logged rules start log
        { j with request := { j.request with proxy := { j.request.proxy with proxy } } }
  | editDirect {log : List Request} {j : Journey} (logged : Logged rules start log j)
      (direct : Bool) :
      Logged rules start log
        { j with request := { j.request with proxy := { j.request.proxy with direct } } }

/-! ### Where values come from -/

/-- A request goes through a proxy once it is made ready. -/
def ProxyRules.Selects (rules : ProxyRules) (req : Request) (e : Endpoint) : Prop :=
  ∃ byRule, rules.select req.proxy req.url = .ok (some e, byRule)

/-- The values are the credentials of a proxy at `p` that a request of the log goes through. -/
def Presented (rules : ProxyRules) (log : List Request) (p : String)
    (values : List FieldValue) : Prop :=
  ∃ req ∈ log, ∃ e c, rules.Selects req e ∧ e.address = p ∧ e.credentials = some c ∧
    values = [c.field]

/-- The first request of the log goes through a proxy at `p` that has no credentials, and carries
the values without an owner. -/
def Adopted (rules : ProxyRules) (log : List Request) (p : String)
    (values : List FieldValue) : Prop :=
  ∃ req e, log.head? = some req ∧ rules.Selects req e ∧ e.address = p ∧ e.credentials = none ∧
    req.proxy.owner = none ∧ req.proxyValues = values

lemma Presented.append (h : Presented rules log p values) (req : Request) :
    Presented rules (log ++ [req]) p values := by
  obtain ⟨first, mem, found⟩ := h
  exact ⟨first, List.mem_append_left _ mem, found⟩

lemma Adopted.append (h : Adopted rules log p values) (req : Request) :
    Adopted rules (log ++ [req]) p values := by
  obtain ⟨first, e, head, found⟩ := h
  refine ⟨first, e, ?_, found⟩
  rw [List.head?_append, head, Option.some_or]

/-! ### The invariant -/

/-- Where the values of a request come from, by their owner: a proxy presented or adopted them, and
without an owner there are none but those of the first request before it is made ready. -/
structure Owned (rules : ProxyRules) (start : Request) (log : List Request) (req : Request) :
    Prop where
  free : req.proxy.owner = none →
    req.proxyValues = [] ∨ log = [] ∧ req.proxyValues = start.proxyValues
  owned : ∀ p, req.proxy.owner = some p →
    Presented rules log p req.proxyValues ∨
      Adopted rules log p req.proxyValues ∧ req.proxyValues = start.proxyValues

/-- Only the owner and the values matter. -/
lemma Owned.congr {after : Request} (h : Owned rules start log req)
    (owner : after.proxy.owner = req.proxy.owner) (same : after.proxyValues = req.proxyValues) :
    Owned rules start log after := by
  constructor
  · intro unowned
    rw [same]
    exact h.free (owner.symm.trans unowned)
  · intro p held
    rw [same]
    exact h.owned p (owner.symm.trans held)

/-- Where nobody owns anything there is nothing to explain. -/
lemma Owned.of_bare (unowned : req.proxy.owner = none) (gone : req.proxyValues = []) :
    Owned rules start log req := by
  refine ⟨fun _ => Or.inl gone, fun p held => ?_⟩
  rw [unowned] at held
  cases held

/-- Where a proxy owns the values, it is enough to know how they came to it. -/
lemma Owned.of_owner (owned : req.proxy.owner = some p)
    (source : Presented rules log p req.proxyValues ∨
      Adopted rules log p req.proxyValues ∧ req.proxyValues = start.proxyValues) :
    Owned rules start log req := by
  refine ⟨fun unowned => ?_, fun other held => ?_⟩
  · rw [owned] at unowned
    cases unowned
  · obtain rfl := Option.some.inj (owned.symm.trans held)
    exact source

/-- Values that a proxy without credentials is to have came to it before, or it adopts them now. -/
lemma Owned.kept (h : Owned rules start log req) {e : Endpoint} (goes : rules.Selects req e)
    (unknown : e.credentials = none)
    (own : req.proxy.owner = some e.address ∨ req.proxy.owner = none ∧ req.proxyValues ≠ []) :
    Presented rules (log ++ [req]) e.address req.proxyValues ∨
      Adopted rules (log ++ [req]) e.address req.proxyValues ∧
        req.proxyValues = start.proxyValues := by
  rcases own with before | ⟨unowned, some⟩
  · rcases h.owned _ before with presented | ⟨adopted, same⟩
    · exact Or.inl (presented.append req)
    · exact Or.inr ⟨adopted.append req, same⟩
  · -- values without an owner do not outlast the first time that a request is made ready
    rcases h.free unowned with none | ⟨rfl, same⟩
    · exact absurd none some
    · exact Or.inr ⟨⟨req, e, rfl, goes, rfl, unknown, unowned, rfl⟩, same⟩

/-- **Making a request ready** keeps the invariant, with the request in the log. -/
lemma Owned.prepare {after : Request} (h : Owned rules start log req)
    (ready : rules.prepare req = .ok after) : Owned rules start (log ++ [req]) after := by
  obtain ⟨endpoint, byRule, chosen, _, settled⟩ := ProxyRules.exists_settled_of_prepare ready
  cases settled with
  | presented via known owned stand =>
      subst via
      have mem : req ∈ log ++ [req] := List.mem_append_right _ (List.mem_singleton_self _)
      exact .of_owner owned (Or.inl ⟨req, mem, _, _, ⟨byRule, chosen⟩, rfl, known, stand⟩)
  | kept via unknown own owned stand =>
      subst via
      refine .of_owner owned ?_
      rw [stand]
      exact h.kept ⟨byRule, chosen⟩ unknown own
  | bare _ unowned gone => exact .of_bare unowned gone

/-- **A hop** keeps it: it keeps owner and values, or clears both. -/
lemma Owned.continues (h : Owned rules start log j.request) (continues : j.Continues s next) :
    Owned rules start log next.request := by
  obtain ⟨_, proxy, _⟩ := continues.exists_follow
  have values := Journey.proxyValues_of_continues continues
  cases owner : next.request.proxy.owner with
  | none =>
      rw [owner] at values
      exact .of_bare owner values
  | some p =>
      rw [owner] at values
      refine h.congr ?_ values
      rw [proxy, followProxy] at owner ⊢
      split_ifs at owner ⊢
      · cases owner
      · rfl

/-- Every course keeps it. -/
lemma Logged.owned (logged : Logged rules start log j) (unowned : start.proxy.owner = none) :
    Owned rules start log j.request := by
  induction logged with
  | start =>
      refine ⟨fun _ => Or.inr ⟨rfl, rfl⟩, fun p held => ?_⟩
      rw [show (Journey.start start).request.proxy.owner = none from unowned] at held
      cases held
  | prepare _ ready ih => exact ih.prepare ready
  | hop _ continues ih => exact ih.continues continues
  | editProxy _ proxy ih => exact ih.congr rfl rfl
  | editDirect _ direct ih => exact ih.congr rfl rfl

/-! ### Requests on their way -/

/-- A request that is made ready goes through the owner of its values, if they have one, and
otherwise carries none. -/
lemma proxy_of_prepare {after : Request} (ready : rules.prepare req = .ok after) :
    (∀ p, after.proxy.owner = some p → after.proxy.proxy = some p) ∧
      (after.proxy.owner = none → after.proxyValues = []) := by
  obtain ⟨endpoint, byRule, _, used, settled⟩ := ProxyRules.exists_settled_of_prepare ready
  rcases settled.owned_or_bare with ⟨e, rfl, owned⟩ | ⟨unowned, gone⟩
  · refine ⟨fun p held => used.trans (owned.symm.trans held), fun unowned => ?_⟩
    rw [owned] at unowned
    cases unowned
  · refine ⟨fun p held => ?_, fun _ => gone⟩
    rw [unowned] at held
    cases held

/-- **A proxy only ever sees its own credentials.** On any course, edits of the caller included,
from a request whose values for proxies have no owner, each request that is made ready goes through
the owner of its values. If it carries any, they have an owner, and either they are the credentials
of that proxy, which some request on the course went through, or they are the values of the first
request, and that proxy was the first one used with them. -/
theorem owner_of_logged (unowned : start.proxy.owner = none) (logged : Logged rules start log j)
    (ready : rules.prepare j.request = .ok req) :
    (∀ p, req.proxy.owner = some p → req.proxy.proxy = some p) ∧
    (req.proxyValues ≠ [] → ∃ p, req.proxy.owner = some p ∧ req.proxy.proxy = some p ∧
      (Presented rules (log ++ [j.request]) p req.proxyValues ∨
        Adopted rules (log ++ [j.request]) p req.proxyValues ∧
          req.proxyValues = start.proxyValues)) := by
  obtain ⟨through, bare⟩ := proxy_of_prepare ready
  refine ⟨through, fun filled => ?_⟩
  have owned := (logged.owned unowned).prepare ready
  cases owner : req.proxy.owner with
  | none => exact absurd (bare owner) filled
  | some p => exact ⟨p, rfl, through p owner, owned.owned p owner⟩

/-- A request that names a proxy and has values for it. -/
def pinnedVisit : Request where
  __ := Request.plain .get (.front "http" 1)
  headers := Headers.ofPairs [("Proxy-Authorization", [97])]
  proxy := ProxyState.pinned "http://[::8]:3128"

/-- The values are for the proxy that the request names. Where the caller takes it back and a rule
chooses another one, that is sent its own credentials. -/
theorem values_of_another_proxy :
    ∃ log j req, Logged (.one "https" []) pinnedVisit log j ∧
      j.urls = [.front "http" 1, .front "https" 2] ∧
      j.request.proxyValues = pinnedVisit.proxyValues ∧
      (ProxyRules.one "https" []).prepare j.request = .ok req ∧
      req.proxy.proxy = some "http://[::9]:3128" ∧
      req.proxyValues.map (·.bytes) = [utf8 "Basic dXNlcjpwdw=="] ∧
      Presented (.one "https" []) (log ++ [j.request]) "http://[::9]:3128" req.proxyValues := by
  have named : (ProxyRules.one "https" []).select pinnedVisit.proxy pinnedVisit.url =
      .ok (some ⟨"http://[::8]:3128", none⟩, false) := by rfl
  have ready : Logged (.one "https" []) pinnedVisit [pinnedVisit] _ :=
    .prepare .start (ProxyRules.prepare_of_select named)
  have logged := (ready.editProxy none).hop (Journey.continues_elsewhere (.front "https" 2)
    (by decide +kernel) rfl)
  obtain ⟨p, _, used, source⟩ := (owner_of_logged rfl logged rfl).2 (by decide)
  obtain rfl : p = "http://[::9]:3128" := Option.some.inj (used.symm.trans rfl)
  rcases source with presented | ⟨_, same⟩
  · exact ⟨_, _, _, logged, rfl, rfl, rfl, used, by decide +kernel, presented⟩
  · exact absurd same (by decide)

end Wayfarer
