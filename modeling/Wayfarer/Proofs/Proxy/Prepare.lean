import Mathlib.Tactic
import Wayfarer.Proofs.Http.Order
import Wayfarer.Proxy.Rules

/-!
What making a request ready to be sent does to it.

* `Request.proxyValues`: the credentials for a proxy in the header of a request;
* `ProxyRules.chosen?`: the proxy that the rules have for a URL;
* `ProxyRules.select_of_direct`, `ProxyRules.select_of_pinned`, `ProxyRules.select_of_open`: the
  choice for a request that wants no proxy, names one, or leaves it to the rules;
* `ProxyRules.routed`: the request once the choice is made, and `ProxyRules.prepare_eq`;
* `ProxyRules.Settled`: what becomes of the credentials for a proxy, and of their owner: they are
  presented, kept or gone;
* `ProxyRules.exists_prepare_of_select`: a choice is enough to make a request ready;
* `ProxyRules.exists_settled_of_prepare`, `ProxyRules.exists_frame_of_prepare`: what changes in a
  request that is made ready, and what does not.
-/

namespace Wayfarer

/-- The values in the header that are credentials for a proxy. -/
def Request.proxyValues (req : Request) : List FieldValue :=
  req.headers.getAll .proxyAuthorization

/-- A computation followed by a function succeeds if it does. -/
lemma map_eq_ok_iff {ε α β : Type} {x : Except ε α} {f : α → β} {result : β} :
    x.map f = .ok result ↔ ∃ a, x = .ok a ∧ f a = result := by
  cases x with
  | error e => exact ⟨nofun, nofun⟩
  | ok a => simp [Except.map]

namespace ProxyRules

variable {r : ProxyRules} {s : ProxyState} {u : Url} {req after : Request}

/-! ### The choice -/

/-- Whether a URL is of the web and its host needs no proxy. -/
def spares (r : ProxyRules) (u : Url) : Bool :=
  u.isHttp && r.exempts u

/-- The proxy that the rules have for a URL. -/
def chosen? (r : ProxyRules) (u : Url) : Option Endpoint :=
  if r.spares u then none else r.rule? u.scheme

lemma chosen?_of_spares (h : r.spares u = true) : r.chosen? u = none := by
  rw [chosen?, if_pos h]

lemma chosen?_of_not_spares (h : r.spares u = false) : r.chosen? u = r.rule? u.scheme := by
  rw [chosen?, h, if_neg Bool.false_ne_true]

lemma select_of_direct (h : s.direct = true) : r.select s u = .ok (none, false) := by
  rw [select, if_pos h]

lemma select_of_pinned {raw : String} (indirect : s.direct = false) (named : s.proxy = some raw) :
    r.select s u = (Endpoint.parse raw).map fun e => (some e, false) := by
  rw [select, indirect, if_neg Bool.false_ne_true, named]

lemma select_of_open (indirect : s.direct = false) (unnamed : s.proxy = none) :
    r.select s u = .ok (r.chosen? u, (r.chosen? u).isSome) := by
  rw [select, indirect, if_neg Bool.false_ne_true, unnamed, chosen?, spares]
  cases r.rule? u.scheme with
  | none => simp
  | some e =>
      dsimp only
      split_ifs <;> rfl

/-! ### After the choice -/

/-- A request for which a proxy, or none, is chosen: the credentials for the proxy are presented,
or those in the header are settled. -/
def routed (req : Request) (endpoint : Option Endpoint) (byRule : Bool) : Request :=
  match endpoint.bind (·.credentials) with
  | some c => present (assign req (endpoint.map (·.address)) byRule) c
  | none => reconcile (assign req (endpoint.map (·.address)) byRule)

lemma prepare_eq (r : ProxyRules) (req : Request) :
    r.prepare req = (r.select req.proxy req.url).map fun choice =>
      routed req choice.1 choice.2 := by
  rw [prepare]
  cases r.select req.proxy req.url <;> rfl

lemma prepare_of_select {endpoint : Option Endpoint} {byRule : Bool}
    (h : r.select req.proxy req.url = .ok (endpoint, byRule)) :
    r.prepare req = .ok (routed req endpoint byRule) := by
  rw [prepare_eq, h]
  rfl

lemma exists_select_of_prepare (h : r.prepare req = .ok after) :
    ∃ endpoint byRule, r.select req.proxy req.url = .ok (endpoint, byRule) ∧
      after = routed req endpoint byRule := by
  rw [prepare_eq, map_eq_ok_iff] at h
  obtain ⟨⟨endpoint, byRule⟩, chosen, rfl⟩ := h
  exact ⟨endpoint, byRule, chosen, rfl⟩

/-! ### Credentials and their owner -/

/-- What becomes of the credentials in the header of a request that goes through `endpoint`, and of
their owner; `owner` and `values` are those before. -/
inductive Settled (owner : Option String) (values : List FieldValue) (endpoint : Option Endpoint)
    (after : Request) : Prop
  /-- The proxy has credentials, and they take the place of all others. -/
  | presented {e : Endpoint} {c : Credentials} (via : endpoint = some e)
      (known : e.credentials = some c) (owned : after.proxy.owner = some e.address)
      (stand : after.proxyValues = [c.field])
  /-- The proxy has none, and those in the header are its own or become so. -/
  | kept {e : Endpoint} (via : endpoint = some e) (unknown : e.credentials = none)
      (own : owner = some e.address ∨ owner = none ∧ values ≠ [])
      (owned : after.proxy.owner = some e.address)
      (stand : after.proxyValues = values)
  /-- There are none, or those in the header belong to another proxy, or no proxy is used. -/
  | bare
      (foreign : ∀ e, endpoint = some e → e.credentials = none ∧ owner ≠ some e.address ∧
        (owner = none → values = []))
      (unowned : after.proxy.owner = none)
      (gone : after.proxyValues = [])

/-- Credentials that are left have the proxy for their owner. -/
lemma Settled.owned_or_bare {owner : Option String} {values : List FieldValue}
    {endpoint : Option Endpoint} (h : Settled owner values endpoint after) :
    (∃ e, endpoint = some e ∧ after.proxy.owner = some e.address) ∨
      after.proxy.owner = none ∧ after.proxyValues = [] := by
  cases h with
  | presented via _ owned _ => exact Or.inl ⟨_, via, owned⟩
  | kept via _ _ owned _ => exact Or.inl ⟨_, via, owned⟩
  | bare _ unowned gone => exact Or.inr ⟨unowned, gone⟩

lemma proxyValues_disown (req : Request) : (disown req).proxyValues = [] := by
  rw [disown, Request.proxyValues, Headers.getAll_erase, if_pos rfl]

/-- Credentials with an owner stay only with it. -/
lemma reconcile_of_owner {o : String} (owned : req.proxy.owner = some o) :
    reconcile req = if req.proxy.proxy = some o then req else disown req := by
  rw [reconcile, owned]

/-- Credentials without an owner are adopted by the proxy in use. -/
lemma reconcile_of_proxy {p : String} (unowned : req.proxy.owner = none)
    (used : req.proxy.proxy = some p) :
    reconcile req = if req.headers.contains .proxyAuthorization then
      { req with proxy := { req.proxy with owner := some p } } else req := by
  rw [reconcile, unowned, used]

/-- Credentials without an owner go where no proxy is in use. -/
lemma reconcile_of_no_proxy (unowned : req.proxy.owner = none) (unused : req.proxy.proxy = none) :
    reconcile req = if req.headers.contains .proxyAuthorization then disown req else req := by
  rw [reconcile, unowned, unused]

lemma getAll_eq_nil_of_not_contains {h : Headers} {name : FieldName}
    (absent : ¬h.contains name = true) : h.getAll name = [] := by
  by_contra filled
  exact absent (Headers.contains_iff.mpr filled)

/-- A proxy without credentials of its own settles those in the header. -/
lemma settled_reconcile (req : Request) {endpoint : Option Endpoint}
    (used : req.proxy.proxy = endpoint.map (·.address))
    (unknown : ∀ e, endpoint = some e → e.credentials = none) :
    Settled req.proxy.owner req.proxyValues endpoint (reconcile req) := by
  cases owner : req.proxy.owner with
  | some o =>
      rw [reconcile_of_owner owner]
      by_cases same : req.proxy.proxy = some o
      · obtain ⟨e, via, rfl⟩ := Option.map_eq_some_iff.mp (used.symm.trans same)
        rw [if_pos same]
        exact .kept via (unknown e via) (Or.inl rfl) owner rfl
      · rw [if_neg same]
        refine .bare (fun e via => ⟨unknown e via, ?_, nofun⟩) rfl (proxyValues_disown _)
        intro held
        rw [used, via, held] at same
        exact same rfl
  | none =>
      cases endpoint with
      | some e =>
          rw [reconcile_of_proxy owner used]
          split_ifs with held
          · exact .kept rfl (unknown e rfl) (Or.inr ⟨rfl, Headers.contains_iff.mp held⟩) rfl rfl
          · have empty := getAll_eq_nil_of_not_contains held
            exact .bare (fun e' via => ⟨unknown e' via, nofun, fun _ => empty⟩) owner empty
      | none =>
          rw [reconcile_of_no_proxy owner used]
          split_ifs with held
          · exact .bare (fun e via => by cases via) rfl (proxyValues_disown _)
          · exact .bare (fun e via => by cases via) owner (getAll_eq_nil_of_not_contains held)

/-- **Choosing a proxy settles the credentials for it.** -/
lemma settled_routed (req : Request) (endpoint : Option Endpoint) (byRule : Bool) :
    Settled req.proxy.owner req.proxyValues endpoint
      (routed req endpoint byRule) := by
  rw [routed]
  cases known : endpoint.bind (·.credentials) with
  | some c =>
      obtain ⟨e, rfl, creds⟩ := Option.bind_eq_some_iff.mp known
      have stand := Headers.getAll_insert req.headers .proxyAuthorization c.field
        .proxyAuthorization
      rw [if_pos rfl] at stand
      exact .presented rfl creds rfl stand
  | none =>
      refine settled_reconcile (assign req (endpoint.map (·.address)) byRule) rfl fun e via => ?_
      rw [via] at known
      exact known

/-! ### What does not change -/

lemma reconcile_frame (req : Request) :
    ∃ headers proxy, reconcile req = { req with headers, proxy } ∧
      proxy.proxy = req.proxy.proxy ∧ proxy.direct = req.proxy.direct ∧
      proxy.byScheme = req.proxy.byScheme ∧
      headers.erase .proxyAuthorization = req.headers.erase .proxyAuthorization := by
  have gone := Headers.erase_erase req.headers .proxyAuthorization
  rw [reconcile]
  split
  · split_ifs
    · exact ⟨_, _, rfl, rfl, rfl, rfl, rfl⟩
    · exact ⟨_, _, rfl, rfl, rfl, rfl, gone⟩
  · split_ifs
    · split
      · exact ⟨_, _, rfl, rfl, rfl, rfl, rfl⟩
      · exact ⟨_, _, rfl, rfl, rfl, rfl, gone⟩
    · exact ⟨_, _, rfl, rfl, rfl, rfl, rfl⟩

/-- Choosing a proxy changes the proxy in use, the mark of rules, the owner of credentials and the
field with them, and nothing else. -/
lemma routed_frame (req : Request) (endpoint : Option Endpoint) (byRule : Bool) :
    ∃ headers proxy, routed req endpoint byRule = { req with headers, proxy } ∧
      proxy.proxy = endpoint.map (·.address) ∧ proxy.direct = req.proxy.direct ∧
      proxy.byScheme = (byRule || req.proxy.byScheme) ∧
      headers.erase .proxyAuthorization = req.headers.erase .proxyAuthorization := by
  rw [routed]
  split
  · exact ⟨_, _, rfl, rfl, rfl, rfl, Headers.erase_insert _ _ _⟩
  · obtain ⟨headers, proxy, eq, used, direct, marked, fields⟩ :=
      reconcile_frame (assign req (endpoint.map (·.address)) byRule)
    exact ⟨headers, proxy, eq, used, direct, marked, fields⟩

/-! ### Requests made ready -/

/-- A choice is enough to make a request ready: it goes through what is chosen, and the credentials
for it are settled. -/
lemma exists_prepare_of_select {endpoint : Option Endpoint} {byRule : Bool}
    (chosen : r.select req.proxy req.url = .ok (endpoint, byRule)) :
    ∃ after, r.prepare req = .ok after ∧ after.proxy.proxy = endpoint.map (·.address) ∧
      after.proxy.direct = req.proxy.direct ∧
      after.proxy.byScheme = (byRule || req.proxy.byScheme) ∧
      Settled req.proxy.owner req.proxyValues endpoint after := by
  obtain ⟨headers, proxy, eq, used, direct, marked, _⟩ := routed_frame req endpoint byRule
  refine ⟨_, prepare_of_select chosen, ?_, ?_, ?_, settled_routed req endpoint byRule⟩
  · rw [eq]
    exact used
  · rw [eq]
    exact direct
  · rw [eq]
    exact marked

/-- **What making a request ready does**: it chooses a proxy, goes through it, and settles the
credentials for it. -/
theorem exists_settled_of_prepare (h : r.prepare req = .ok after) :
    ∃ endpoint byRule, r.select req.proxy req.url = .ok (endpoint, byRule) ∧
      after.proxy.proxy = endpoint.map (·.address) ∧
      Settled req.proxy.owner req.proxyValues endpoint after := by
  obtain ⟨endpoint, byRule, chosen, _⟩ := exists_select_of_prepare h
  obtain ⟨made, ready, used, _, _, settled⟩ := exists_prepare_of_select chosen
  obtain rfl : made = after := Except.ok.inj (ready.symm.trans h)
  exact ⟨endpoint, byRule, chosen, used, settled⟩

/-- **What it leaves alone**: all but the header and the proxy state, of the header all but the
field with credentials for a proxy, and of the proxy state the wish for none. -/
theorem exists_frame_of_prepare (h : r.prepare req = .ok after) :
    ∃ headers proxy, after = { req with headers, proxy } ∧ proxy.direct = req.proxy.direct ∧
      headers.erase .proxyAuthorization = req.headers.erase .proxyAuthorization := by
  obtain ⟨endpoint, byRule, _, rfl⟩ := exists_select_of_prepare h
  obtain ⟨headers, proxy, eq, _, direct, _, fields⟩ := routed_frame req endpoint byRule
  exact ⟨headers, proxy, eq, direct, fields⟩

lemma url_of_prepare (h : r.prepare req = .ok after) : after.url = req.url := by
  obtain ⟨headers, proxy, rfl, _⟩ := exists_frame_of_prepare h
  rfl

lemma trail_of_prepare (h : r.prepare req = .ok after) : after.trail = req.trail := by
  obtain ⟨headers, proxy, rfl, _⟩ := exists_frame_of_prepare h
  rfl

lemma direct_of_prepare (h : r.prepare req = .ok after) :
    after.proxy.direct = req.proxy.direct := by
  obtain ⟨headers, proxy, rfl, direct, _⟩ := exists_frame_of_prepare h
  exact direct

lemma getAll_of_prepare (h : r.prepare req = .ok after) {name : FieldName}
    (other : name ≠ .proxyAuthorization) :
    after.headers.getAll name = req.headers.getAll name := by
  obtain ⟨headers, proxy, rfl, _, fields⟩ := exists_frame_of_prepare h
  exact Headers.getAll_eq_of_erase_eq fields other

end ProxyRules

end Wayfarer
