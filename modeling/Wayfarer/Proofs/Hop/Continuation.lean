import Mathlib.Tactic
import Wayfarer.Hop.Chain
import Wayfarer.Proofs.Hop.Allowance

/-!
How a policy continues a journey.

* `Journey.Continues`: a policy answers a response with a further request;
* `Journey.Continues.of_target`, `Journey.Continues.of_refresh`: it does so wherever a redirect or a
  refresh directive leads, if the limits allow it;
* `Journey.Continues.exists_hop`: it does so by one hop, of an errand that the reason asks for;
* `Journey.Continues.exists_follow`, `Journey.Continues.priority_eq`: what the further request is
  made of, and how soon it is due;
* `trail_of_hop`, `refuses_of_hop`: the past and the trail after a hop, and when it is refused;
* `Settings.checkAll_cons`: a policy decides where it finds a place, or leaves it to the next one;
* `followProxy_of_changed`, `followProxy_of_kept`: the proxy state that a hop forgets or keeps;
* `getAll_forwardable`, `Errand.getAll_headers`, `getAll_followHeaders`: which values a hop leaves
  under a field name, and under the name of credentials for a proxy.
-/

namespace Wayfarer

/-! ### The proxy state that a hop leaves -/

variable {req : Request} {target : Url}

/-- A hop forgets the proxy state if a rule chose the proxy and the scheme changes. -/
lemma followProxy_of_changed (marked : req.proxy.byScheme = true)
    (changed : req.url.scheme ≠ target.scheme) : followProxy req target = ProxyState.empty := by
  rw [followProxy, if_pos]
  simp [reselects, marked, changed]

/-- Otherwise it keeps the proxy state. -/
lemma followProxy_of_kept
    (kept : req.proxy.byScheme = false ∨ req.url.scheme = target.scheme) :
    followProxy req target = req.proxy := by
  rw [followProxy, if_neg]
  rcases kept with unmarked | same
  · simp [reselects, unmarked]
  · simp [reselects, same]

/-- A hop never asks for no proxy by itself. -/
lemma direct_followProxy (direct : req.proxy.direct = false) :
    (followProxy req target).direct = false := by
  rw [followProxy]
  split_ifs
  · rfl
  · exact direct

/-! ### The values that a hop leaves -/

/-- A field goes along unless it is bound to an origin that the hop leaves. -/
lemma getAll_forwardable (h : Headers) (source target : Url) (name : FieldName) :
    (forwardable h source target).getAll name =
      if source.sameOrigin target ∨ name ∉ originBound then h.getAll name else [] := by
  rw [forwardable]
  by_cases same : source.sameOrigin target = true
  · simp [same]
  · rw [if_neg same, Headers.getAll_retain]
    simp [same]

/-- A field goes along unless it describes a body and the errand is to read. -/
lemma Errand.getAll_headers (e : Errand) (h : Headers) (name : FieldName) :
    (e.headers h).getAll name =
      if e = .keep ∨ name ∉ bodyFields then h.getAll name else [] := by
  cases e with
  | keep => simp [Errand.headers]
  | read =>
      rw [Errand.headers, Headers.getAll_retain]
      simp

/-- Credentials for a proxy go along if the proxy state that goes along names their owner. -/
lemma getAll_followHeaders_proxyAuthorization (req : Request) (target : Url) (e : Errand) :
    (followHeaders req target e).getAll .proxyAuthorization =
      if (followProxy req target).owner.isNone then []
      else req.headers.getAll .proxyAuthorization := by
  have free : FieldName.proxyAuthorization ∉ originBound := by decide
  have plain : FieldName.proxyAuthorization ∉ bodyFields := by decide
  rw [followHeaders]
  split_ifs with unowned
  · rw [Headers.getAll_erase, if_pos rfl]
  · rw [Errand.getAll_headers, if_pos (Or.inr plain), getAll_forwardable, if_pos (Or.inr free)]

/-- Any other field goes along as the filters for origins and for bodies let it. -/
lemma getAll_followHeaders (req : Request) (target : Url) (e : Errand) {name : FieldName}
    (other : name ≠ .proxyAuthorization) :
    (followHeaders req target e).getAll name =
      (e.headers (forwardable req.headers req.url target)).getAll name := by
  rw [followHeaders]
  split_ifs
  · rw [Headers.getAll_erase, if_neg other]
  · rfl

/-! ### Continued journeys -/

/-- A policy of redirects or of refresh directives, with the limits of `s`, answers a response to
the request of a journey with a further request. -/
inductive Journey.Continues (s : RedirectSettings) (j next : Journey) : Prop
  | redirect (c : Crawler) (r : Response)
      (follows : (ResponsePolicy.redirect s).check c ⟨j, r⟩ = .ok (.follow next))
  | refresh (t : RefreshSettings) (c : Crawler) (r : Response)
      (follows : (ResponsePolicy.refresh t s).check c ⟨j, r⟩ = .ok (.follow next))

/-- A redirect continues a journey with the hop to where it leads. -/
lemma Journey.Continues.of_target {s : RedirectSettings} {j next : Journey} {c : Crawler}
    {r : Response} {target : Url} {e : Errand}
    (leads : redirectTarget? s c j.request r = some (target, e))
    (made : hop s j target e (.status r.status.code) = .ok next) : j.Continues s next := by
  refine .redirect c r ?_
  change verdict s ⟨j, r⟩ (.status r.status.code) (redirectTarget? s c j.request r) = _
  rw [leads]
  simp only [verdict, made]

/-- A refresh directive continues a journey with the hop to where it leads. -/
lemma Journey.Continues.of_refresh {s : RedirectSettings} {t : RefreshSettings} {j next : Journey}
    {r : Response} {target : Url} (leads : refreshTarget? t j.request r = some target)
    (made : hop s j target .read .refresh = .ok next) : j.Continues s next := by
  refine .refresh t default r ?_
  change verdict s ⟨j, r⟩ .refresh ((refreshTarget? t j.request r).map (·, .read)) = _
  rw [leads]
  simp only [Option.map_some, verdict, made]

/-- The errands that a reason asks for: a status says it, a refresh directive only reads. -/
def Reason.Asks (reason : Reason) (e : Errand) : Prop :=
  (∃ st : Status, reason = .status st.code ∧ st.errand? = some e) ∨ reason = .refresh ∧ e = .read

/-- A verdict that continues a journey made a hop to its target. -/
lemma exists_hop_of_verdict {s : RedirectSettings} {a : Arrival} {reason : Reason}
    {place : Option (Url × Errand)} {next : Journey}
    (h : verdict s a reason place = .ok (.follow next)) :
    ∃ target e, place = some (target, e) ∧ hop s a.journey target e reason = .ok next := by
  cases place with
  | none => simp [verdict] at h
  | some place =>
      obtain ⟨target, e⟩ := place
      rw [verdict] at h
      split at h
      · next made =>
          cases h
          exact ⟨target, e, rfl, made⟩
      · cases h

lemma toOption_eq_some_iff {ε α : Type} {x : Except ε α} {y : α} :
    x.toOption = some y ↔ x = .ok y := by
  cases x with
  | error e => exact ⟨nofun, nofun⟩
  | ok z => exact ⟨fun h => by cases h; rfl, fun h => by cases h; rfl⟩

/-- A redirect leads where the status asks for a hop and the location can be resolved. -/
lemma redirectTarget?_eq_some_iff {s : RedirectSettings} {c : Crawler} {req : Request}
    {r : Response} {target : Url} {e : Errand} :
    redirectTarget? s c req r = some (target, e) ↔
      s.enabled = true ∧ leavesStatus c req r.status = false ∧ req.url.isHttp = true ∧
        r.status.errand? = some e ∧ ∃ location, r.headers.get? .location = some location ∧
          Target.resolve req.url location.bytes = .ok target := by
  rw [redirectTarget?, Option.ite_none_left_eq_some]
  simp only [Bool.or_eq_true, Bool.not_eq_true', not_or, Bool.not_eq_false, Bool.not_eq_true,
    Option.bind_eq_bind, Option.bind_eq_some_iff, Option.some.injEq, Prod.mk.injEq,
    toOption_eq_some_iff]
  constructor
  · rintro ⟨⟨⟨enabled, left⟩, web⟩, _, asked, location, located, _, resolves, rfl, rfl⟩
    exact ⟨enabled, left, web, asked, location, located, resolves⟩
  · rintro ⟨enabled, left, web, asked, location, located, resolves⟩
    exact ⟨⟨⟨enabled, left⟩, web⟩, _, asked, location, located, _, resolves, rfl, rfl⟩

/-- **One hop continues a journey**, and its errand is one that its reason asks for. -/
theorem Journey.Continues.exists_hop {s : RedirectSettings} {j next : Journey}
    (h : j.Continues s next) :
    ∃ target e reason, reason.Asks e ∧ hop s j target e reason = .ok next := by
  cases h with
  | redirect c r follows =>
      obtain ⟨target, e, place, made⟩ := exists_hop_of_verdict follows
      obtain ⟨_, _, _, asked, _⟩ := redirectTarget?_eq_some_iff.mp place
      exact ⟨target, e, _, Or.inl ⟨_, rfl, asked⟩, made⟩
  | refresh t c r follows =>
      obtain ⟨target, e, place, made⟩ := exists_hop_of_verdict follows
      obtain ⟨u, _, found⟩ := Option.map_eq_some_iff.mp place
      cases found
      exact ⟨target, .read, .refresh, Or.inr ⟨rfl, rfl⟩, made⟩

/-- A hop puts the request for its target on top of the journey, with a new trail and priority. -/
lemma eq_next_of_hop {s : RedirectSettings} {j next : Journey} {target : Url} {e : Errand}
    {reason : Reason} (h : hop s j target e reason = .ok next) :
    ∃ trail, j.request.trail.advance j.request.url.text reason s.limits = .ok trail ∧
      next = j.next { follow j.request target e with
        trail
        priority := j.request.priority.raise s.priorityAdjust } := by
  rw [hop] at h
  split at h
  · cases h
  · next trail advanced =>
      cases h
      exact ⟨trail, advanced, rfl⟩

/-- A hop puts the request before into the past, and advances its trail. -/
lemma trail_of_hop {s : RedirectSettings} {j next : Journey} {target : Url} {e : Errand}
    {reason : Reason} (h : hop s j target e reason = .ok next) :
    next.past = j.request :: j.past ∧
      j.request.trail.advance j.request.url.text reason s.limits = .ok next.request.trail := by
  obtain ⟨trail, advanced, rfl⟩ := eq_next_of_hop h
  exact ⟨rfl, advanced⟩

/-- A hop fails only where the limits refuse it. -/
lemma refuses_of_hop {s : RedirectSettings} {j : Journey} {target : Url} {e : Errand}
    {reason : Reason} {refusal : LimitExceeded} (h : hop s j target e reason = .error refusal) :
    s.limits.Refuses j.request.trail ∧
      refusal = ⟨j.request.url.text, j.request.trail.hops + 1⟩ := by
  rw [hop] at h
  dsimp only at h
  rw [Trail.advance_eq] at h
  by_cases refuses : s.limits.Refuses j.request.trail
  · rw [if_pos refuses] at h
    cases h
    exact ⟨refuses, rfl⟩
  · rw [if_neg refuses] at h
    cases h

/-- **What a policy continues a journey with**: the request before joins the past, and the fields
and the proxy state of the next one are those that may go to its URL. -/
theorem Journey.Continues.exists_follow {s : RedirectSettings} {j next : Journey}
    (h : j.Continues s next) :
    next.past = j.request :: j.past ∧
      next.request.proxy = followProxy j.request next.request.url ∧
      ∃ e, next.request.headers = followHeaders j.request next.request.url e := by
  obtain ⟨target, e, reason, _, made⟩ := h.exists_hop
  obtain ⟨trail, _, rfl⟩ := eq_next_of_hop made
  exact ⟨rfl, rfl, e, rfl⟩

/-- Either policy raises the priority once, by what the settings say. -/
lemma Journey.Continues.priority_eq {s : RedirectSettings} {j next : Journey}
    (h : j.Continues s next) :
    next.request.priority = j.request.priority.raise s.priorityAdjust := by
  obtain ⟨target, e, reason, _, made⟩ := h.exists_hop
  obtain ⟨trail, _, rfl⟩ := eq_next_of_hop made
  rfl

/-! ### Several policies -/

namespace Settings

/-- The place to which a policy finds that a response leads, unless the request is exempt from
it. -/
def placeBy? (p : ResponsePolicy) (a : Arrival) (place : Option (Url × Errand)) :
    Option (Url × Errand) :=
  if a.request.skip.any (·.skips p.name) then none else place

/-- A policy decides where it finds a place, and leaves the response to the next one otherwise. -/
lemma checkAll_cons {limits : RedirectSettings} {p : ResponsePolicy} {ps : List ResponsePolicy}
    {c : Crawler} {a : Arrival} {reason : Reason} {place : Option (Url × Errand)}
    (judges : p.check c a = verdict limits a reason place) :
    checkAll c a.request.skip (p :: ps) a =
      match placeBy? p a place with
      | some place => verdict limits a reason (some place)
      | none => checkAll c a.request.skip ps a := by
  rw [checkAll, placeBy?, judges]
  split_ifs
  · rfl
  · cases place with
    | none => rfl
    | some place =>
        cases made : hop limits a.journey place.1 place.2 reason <;> simp only [verdict, made]

end Settings

end Wayfarer
