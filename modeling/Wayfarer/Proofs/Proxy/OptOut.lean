import Wayfarer.Proofs.Hop.Course

/-!
Requests that want no proxy.

* `ProxyRules.exists_prepare_of_direct`: such a request is made ready without a proxy and without
  credentials for one;
* `OptOut`: what a course has made of the wish for no proxy: it is held, or it is lost;
* `Journey.direct_iff_of_course`: the wish is held exactly as long as no rule had chosen a proxy
  before or the scheme has not changed.
-/

namespace Wayfarer

variable {j next : Journey} {rules : ProxyRules} {s : RedirectSettings} {req start : Request}

/-- A request that wants no proxy is made ready without one, and carries no credentials. -/
lemma ProxyRules.exists_prepare_of_direct (rules : ProxyRules) (direct : req.proxy.direct = true) :
    ∃ after, rules.prepare req = .ok after ∧ after.proxy.direct = true ∧
      after.proxy.proxy = none ∧ after.proxy.byScheme = req.proxy.byScheme ∧
      after.proxyValues = [] := by
  obtain ⟨after, ready, used, same, marked, settled⟩ :=
    exists_prepare_of_select (r := rules) (select_of_direct direct)
  refine ⟨after, ready, same.trans direct, used, marked, ?_⟩
  cases settled with
  | presented via => cases via
  | kept via => cases via
  | bare _ _ gone => exact gone

/-- What a course has made of the wish for no proxy that its first request had. -/
inductive OptOut (start : Request) (j : Journey) : Prop
  /-- It is held: no rule had chosen a proxy for the first request, or the scheme never changed. -/
  | held (direct : j.request.proxy.direct = true)
      (marked : j.request.proxy.byScheme = start.proxy.byScheme)
      (kept : start.proxy.byScheme = false ∨ ∀ u ∈ j.urls, u.scheme = start.url.scheme)
  /-- It is lost: a rule had chosen one, and the scheme changed. -/
  | lost (direct : j.request.proxy.direct = false) (marked : start.proxy.byScheme = true)
      (changed : ∃ u ∈ j.urls, u.scheme ≠ start.url.scheme)

lemma optOut_start (direct : start.proxy.direct = true) : OptOut start (Journey.start start) := by
  refine .held direct rfl (Or.inr fun u mem => ?_)
  rw [Journey.urls_start, List.mem_singleton] at mem
  rw [mem]

lemma OptOut.prepare (h : OptOut start j) (ready : rules.prepare j.request = .ok req) :
    OptOut start { j with request := req } := by
  have urls := Journey.urls_of_prepare ready
  cases h with
  | held direct marked kept =>
      obtain ⟨after, made, direct', _, marked', _⟩ := rules.exists_prepare_of_direct direct
      obtain rfl : after = req := Except.ok.inj (made.symm.trans ready)
      refine .held direct' (marked'.trans marked) ?_
      rw [urls]
      exact kept
  | lost direct marked changed =>
      refine .lost ((ProxyRules.direct_of_prepare ready).trans direct) marked ?_
      rw [urls]
      exact changed

lemma OptOut.continues (h : OptOut start j) (continues : j.Continues s next) :
    OptOut start next := by
  have urls := Journey.urls_of_continues continues
  obtain ⟨_, proxy, _⟩ := continues.exists_follow
  have before : ∀ u ∈ j.urls, u ∈ next.urls := fun u mem => by
    rw [urls]
    exact List.mem_append_left _ mem
  cases h with
  | lost direct marked changed =>
      obtain ⟨u, mem, differ⟩ := changed
      refine .lost ?_ marked ⟨u, before u mem, differ⟩
      rw [proxy]
      exact direct_followProxy direct
  | held direct marked kept =>
      -- no rule chooses for a request that wants no proxy, so the mark is still the first one
      by_cases stays :
          start.proxy.byScheme = false ∨ j.request.url.scheme = next.request.url.scheme
      · rw [← marked] at stays
        rw [followProxy_of_kept stays] at proxy
        refine .held (by rw [proxy, direct]) (by rw [proxy, marked]) ?_
        rw [marked] at stays
        rcases stays with unmarked | same
        · exact Or.inl unmarked
        · refine kept.imp id fun one u mem => ?_
          rw [urls, List.mem_append, List.mem_singleton] at mem
          rcases mem with old | rfl
          · exact one u old
          · rw [← same, one _ (Journey.url_mem_urls j)]
      · rw [not_or, Bool.not_eq_false] at stays
        obtain ⟨mark, changed⟩ := stays
        rw [followProxy_of_changed (marked.trans mark) changed] at proxy
        refine .lost (by rw [proxy]; rfl) mark ⟨_, Journey.url_mem_urls next, ?_⟩
        rcases kept with unmarked | one
        · rw [mark] at unmarked
          cases unmarked
        · rw [← one _ (Journey.url_mem_urls j)]
          exact Ne.symm changed

/-- **How long the wish for no proxy is held.** On any course from a request that wants no proxy,
the latest request still wants none if and only if no rule had chosen a proxy for the first one or
all URLs have its scheme; and as long as it wants none, it is made ready without a proxy and
without credentials for one. -/
theorem Journey.direct_iff_of_course (start : Request) (direct : start.proxy.direct = true)
    (course : Relation.ReflTransGen (Step rules) (Journey.start start) j) :
    (j.request.proxy.direct = true ↔
      start.proxy.byScheme = false ∨ ∀ u ∈ j.urls, u.scheme = start.url.scheme) ∧
    (j.request.proxy.direct = true → ∃ req, rules.prepare j.request = .ok req ∧
      req.proxy.direct = true ∧ req.proxy.proxy = none ∧
      req.proxyValues = []) := by
  have invariant : OptOut start j := by
    induction course with
    | refl => exact optOut_start direct
    | tail _ step ih =>
        cases step with
        | prepare ready => exact ih.prepare ready
        | hop continues => exact ih.continues continues
  constructor
  · cases invariant with
    | held direct' _ kept => exact ⟨fun _ => kept, fun _ => direct'⟩
    | lost direct' marked changed =>
        rw [direct', marked]
        refine ⟨Bool.noConfusion, ?_⟩
        rintro (unmarked | one)
        · cases unmarked
        · obtain ⟨u, mem, differ⟩ := changed
          exact absurd (one u mem) differ
  · intro wanted
    obtain ⟨req, ready, direct', unused, _, gone⟩ := rules.exists_prepare_of_direct wanted
    exact ⟨req, ready, direct', unused, gone⟩

/-- A request that wants no proxy, although it names one and has credentials for it. -/
def directVisit (byScheme : Bool) : Request where
  __ := Request.plain .get (.front "http" 1)
  headers := Headers.ofPairs [("Proxy-Authorization", [97])]
  proxy := ⟨some "http://[::8]:3128", true, none, byScheme⟩

/-- The wish is held where the scheme changes, if no rule had chosen a proxy. -/
theorem direct_kept_across_schemes :
    ∃ j req, Relation.ReflTransGen (Journey.Step (.one "https" []))
        (Journey.start (directVisit false)) j ∧
      j.urls = [.front "http" 1, .front "https" 2] ∧ j.request.proxy.direct = true ∧
      (ProxyRules.one "https" []).prepare j.request = .ok req ∧ req.proxy.proxy = none ∧
      req.proxyValues = [] := by
  have ready : Relation.ReflTransGen (Journey.Step (.one "https" []))
      (Journey.start (directVisit false)) _ := .single (.prepare rfl)
  have course := ready.tail (.hop (Journey.continues_elsewhere (.front "https" 2)
    (by decide +kernel) rfl))
  have law := Journey.direct_iff_of_course (directVisit false) rfl course
  have direct := law.1.mpr (Or.inl rfl)
  obtain ⟨req, made, _, unused, gone⟩ := law.2 direct
  exact ⟨_, req, course, rfl, direct, made, unused, gone⟩

/-- It is lost where the scheme changes after a rule had chosen one: the request then goes through
the proxy of a rule. -/
theorem direct_lost_across_schemes :
    (directVisit true).proxy.direct = true ∧
      ∃ j req, Relation.ReflTransGen (Journey.Step (.one "https" []))
          (Journey.start (directVisit true)) j ∧
        j.urls = [.front "http" 1, .front "https" 2] ∧ j.request.proxy.direct = false ∧
        (ProxyRules.one "https" []).prepare j.request = .ok req ∧
        req.proxy.proxy = some "http://[::9]:3128" := by
  have ready : Relation.ReflTransGen (Journey.Step (.one "https" []))
      (Journey.start (directVisit true)) _ := .single (.prepare rfl)
  have course := ready.tail (.hop (Journey.continues_elsewhere (.front "https" 2)
    (by decide +kernel) rfl))
  exact ⟨rfl, _, _, course, rfl, rfl, rfl, rfl⟩

end Wayfarer
