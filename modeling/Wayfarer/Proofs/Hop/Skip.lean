import Wayfarer.Proofs.Hop.Verdict
import Wayfarer.Proofs.Proxy.Prepare

/-!
Policies that a request is exempt from.

* `PolicyChain.without`: a chain without the policies of a name; `checkAll_one`, `checkAll_all`:
  with a marker for that name a chain decides as without them, with the marker for all it passes on;
* `Relays`, `Decided`: the first policy that does not pass on what it is handed decides, or all do;
  `checkAll_none_eq_iff`: **that is what a chain without markers decides**;
* `ResponsePolicy.HandsBack`: a policy passes on the response as it got it, and
  `PolicyChain.check_of_handsBack`: then the policies behind the deciding one do not count;
* `Request.unmarked`, `Journey.unmarked`, `Arrival.unmarked`, `Verdict.unmarked`: without markers;
* `ResponsePolicy.IsOblivious`: a policy that leaves markers to the chain, and `Guide.isOblivious`:
  those for redirects and refresh directives do;
* `PolicyChain.check_without`: **a chain of such policies decides about a marked response as one
  without the policies of the name does about the same response unmarked**.
-/

namespace Wayfarer

variable {c : Crawler} {a b : Arrival} {p : ResponsePolicy} {ps : List ResponsePolicy} {n : String}
  {v : Except Failure Verdict} {next : Journey}

/-- A chain without the policies of a name. -/
def PolicyChain.without (chain : PolicyChain) (n : String) : PolicyChain :=
  ⟨chain.rules, chain.policies.filter (·.name ≠ n)⟩

/-! ### Markers -/

/-- With a marker for one name, a chain decides as it does without the policies of that name. -/
lemma checkAll_one (c : Crawler) (n : String) (ps : List ResponsePolicy) (a : Arrival) :
    checkAll c (some (.one n)) ps a = checkAll c none (ps.filter (·.name ≠ n)) a := by
  induction ps generalizing a with
  | nil => rfl
  | cons p ps ih =>
      by_cases named : p.name = n
      · rw [List.filter_cons_of_neg (by simp [named]), ← ih, checkAll]
        simp [Skip.skips, named]
      · rw [List.filter_cons_of_pos (by simp [named]), checkAll, checkAll]
        simp only [Skip.skips, Option.any_some, Option.any_none, Ne.symm named, decide_false,
          Bool.false_eq_true, if_false, ih]

/-- With the marker for all policies none is asked. -/
lemma checkAll_all (c : Crawler) (ps : List ResponsePolicy) (a : Arrival) :
    checkAll c (some .all) ps a = .ok (.pass a) := by
  induction ps with
  | nil => rfl
  | cons p ps ih =>
      rw [checkAll, ih]
      rfl

/-! ### The first policy that decides -/

/-- Policies pass a response on one after the other, each what the one before hands it. -/
inductive Relays (c : Crawler) : List ResponsePolicy → Arrival → Arrival → Prop
  | nil {a : Arrival} : Relays c [] a a
  | cons {p : ResponsePolicy} {ps : List ResponsePolicy} {a b d : Arrival}
      (passes : p.check c a = .ok (.pass b)) (rest : Relays c ps b d) : Relays c (p :: ps) a d

/-- What is decided about a response: that it is passed on, if all policies do, or else the verdict
of the first one that does not pass on what it is handed. -/
inductive Decided (c : Crawler) (ps : List ResponsePolicy) (a : Arrival) :
    Except Failure Verdict → Prop
  | passed {b : Arrival} (relays : Relays c ps a b) : Decided c ps a (.ok (.pass b))
  | stopped {front back : List ResponsePolicy} {p : ResponsePolicy} {b : Arrival}
      {v : Except Failure Verdict} (split : ps = front ++ p :: back) (relays : Relays c front a b)
      (decides : p.check c b = v) (stops : ∀ d, v ≠ .ok (.pass d)) : Decided c ps a v

/-- A policy that passes a response on leaves the decision to those behind it. -/
lemma checkAll_none_of_pass (passes : p.check c a = .ok (.pass b)) :
    checkAll c none (p :: ps) a = checkAll c none ps b := by
  rw [checkAll, passes]
  rfl

/-- A policy that does not pass it on decides. -/
lemma checkAll_none_of_stop (decides : p.check c a = v) (stops : ∀ d, v ≠ .ok (.pass d)) :
    checkAll c none (p :: ps) a = v := by
  rw [checkAll, decides]
  split
  · next skipped => cases skipped
  · split
    · next d => exact absurd rfl (stops d)
    · rfl

lemma Relays.checkAll_append {front : List ResponsePolicy} (relays : Relays c front a b)
    (back : List ResponsePolicy) : checkAll c none (front ++ back) a = checkAll c none back b := by
  induction relays with
  | nil => rfl
  | cons passes _ ih => rw [List.cons_append, checkAll_none_of_pass passes, ih]

lemma decided_checkAll (c : Crawler) (ps : List ResponsePolicy) (a : Arrival) :
    Decided c ps a (checkAll c none ps a) := by
  induction ps generalizing a with
  | nil => exact .passed .nil
  | cons p ps ih =>
      by_cases stops : ∀ d, p.check c a ≠ .ok (.pass d)
      · rw [checkAll_none_of_stop rfl stops]
        exact .stopped (List.nil_append _).symm .nil rfl stops
      · push Not at stops
        obtain ⟨b, passes⟩ := stops
        rw [checkAll_none_of_pass passes]
        have rest := ih b
        generalize checkAll c none ps b = v at rest ⊢
        cases rest with
        | passed relays => exact .passed (.cons passes relays)
        | stopped split relays decides stops =>
            exact .stopped (by rw [split, List.cons_append]) (.cons passes relays) decides stops

/-- **What a chain without markers decides**: the first policy that does not pass on what it is
handed decides alone. -/
theorem checkAll_none_eq_iff : checkAll c none ps a = v ↔ Decided c ps a v := by
  constructor
  · rintro rfl
    exact decided_checkAll c ps a
  · intro decided
    cases decided with
    | passed relays =>
        rw [← List.append_nil ps, relays.checkAll_append, checkAll]
    | stopped split relays decides stops =>
        rw [split, relays.checkAll_append, checkAll_none_of_stop decides stops]

/-- A policy passes a response on as it got it. -/
def ResponsePolicy.HandsBack (p : ResponsePolicy) : Prop :=
  ∀ c a b, p.check c a = .ok (.pass b) → b = a

lemma Relays.of_handsBack (relays : Relays c ps a b) (handsBack : ∀ p ∈ ps, p.HandsBack) :
    b = a ∧ ∀ p ∈ ps, p.check c a = .ok (.pass a) := by
  induction relays with
  | nil => exact ⟨rfl, List.forall_mem_nil _⟩
  | cons passes _ ih =>
      obtain ⟨first, others⟩ := List.forall_mem_cons.mp handsBack
      obtain rfl := first _ _ _ passes
      obtain ⟨rfl, all⟩ := ih others
      exact ⟨rfl, List.forall_mem_cons.mpr ⟨passes, all⟩⟩

namespace PolicyChain

variable {chain : PolicyChain}

lemma check_of_unmarked (unmarked : a.request.skip = none) :
    chain.check c a = checkAll c none chain.policies a := by
  rw [check, unmarked]

/-- **Policies that hand responses back** all pass one on, which is then the original, or the first
that does not decides, whatever policies are behind it. -/
theorem check_of_handsBack (unmarked : a.request.skip = none)
    (handsBack : ∀ p ∈ chain.policies, p.HandsBack) :
    (chain.check c a = .ok (.pass a) ∧ ∀ p ∈ chain.policies, p.check c a = .ok (.pass a)) ∨
      ∃ front p back, chain.policies = front ++ p :: back ∧
        (∀ q ∈ front, q.check c a = .ok (.pass a)) ∧ (∀ b, p.check c a ≠ .ok (.pass b)) ∧
        ∀ back', PolicyChain.check ⟨chain.rules, front ++ p :: back'⟩ c a = p.check c a := by
  have decided := decided_checkAll c chain.policies a
  rw [← check_of_unmarked unmarked] at decided
  generalize chain.check c a = v at decided ⊢
  cases decided with
  | passed relays =>
      obtain ⟨rfl, passes⟩ := relays.of_handsBack handsBack
      exact .inl ⟨rfl, passes⟩
  | @stopped front back p b v split relays decides stops =>
      have each : ∀ q ∈ front, q.HandsBack := fun q mem =>
        handsBack q (split ▸ List.mem_append_left _ mem)
      obtain ⟨rfl, passes⟩ := relays.of_handsBack each
      refine .inr ⟨front, p, back, split, passes, decides ▸ stops, fun back' => ?_⟩
      rw [check_of_unmarked unmarked, relays.checkAll_append,
        checkAll_none_of_stop decides stops, decides]

end PolicyChain

/-! ### Messages without markers -/

/-- The request without a marker. -/
def Request.unmarked (req : Request) : Request :=
  { req with skip := none }

/-- The journey without markers. -/
def Journey.unmarked (j : Journey) : Journey :=
  ⟨j.request.unmarked, j.past.map Request.unmarked⟩

/-- The arrival without markers. -/
def Arrival.unmarked (a : Arrival) : Arrival :=
  ⟨a.journey.unmarked, a.response⟩

/-- The verdict without markers. -/
def Verdict.unmarked : Verdict → Verdict
  | pass a => pass a.unmarked
  | follow next => follow next.unmarked

/-- A hop leaves markers alone. -/
lemma hop_unmarked (s : RedirectSettings) (j : Journey) (target : Url) (e : Errand)
    (reason : Reason) :
    hop s j.unmarked target e reason = (hop s j target e reason).map Journey.unmarked := by
  have same : j.unmarked.request.trail.advance j.unmarked.request.url.text reason s.limits =
    j.request.trail.advance j.request.url.text reason s.limits := rfl
  rw [hop, hop, same]
  cases j.request.trail.advance j.request.url.text reason s.limits <;> rfl

lemma verdict_unmarked (s : RedirectSettings) (a : Arrival) (reason : Reason)
    (place : Option (Url × Errand)) :
    verdict s a.unmarked reason place = (verdict s a reason place).map Verdict.unmarked := by
  cases place with
  | none => rfl
  | some place =>
      obtain ⟨target, e⟩ := place
      have made : hop s a.unmarked.journey target e reason =
          (hop s a.journey target e reason).map Journey.unmarked :=
        hop_unmarked s a.journey target e reason
      rw [verdict, verdict, made]
      cases hop s a.journey target e reason <;> rfl

/-! ### Policies that leave markers to the chain -/

/-- A policy that leaves markers to the chain: it passes a response on as it got it, its verdict on
an unmarked one is the same but for the markers, and the requests that it makes have the marker of
the request before. -/
structure ResponsePolicy.IsOblivious (p : ResponsePolicy) : Prop where
  handsBack : p.HandsBack
  overlooks : ∀ c a, p.check c a.unmarked = (p.check c a).map Verdict.unmarked
  carries : ∀ c a next, p.check c a = .ok (.follow next) → next.request.skip = a.request.skip

/-- **Policies for redirects and refresh directives** leave markers to the chain. -/
theorem Guide.isOblivious (g : Guide) : g.policy.IsOblivious where
  handsBack c a b passes := by
    obtain ⟨reason, judges⟩ := g.exists_verdict c a
    rw [judges] at passes
    cases place : g.place? c a with
    | none =>
        rw [place] at passes
        cases passes
        rfl
    | some place' =>
        rw [place, verdict] at passes
        split at passes <;> cases passes
  overlooks c a := by
    cases g with
    | redirect s => exact verdict_unmarked s a _ _
    | refresh t s => exact verdict_unmarked s a _ _
  carries c a next follows := by
    obtain ⟨reason, judges⟩ := g.exists_verdict c a
    rw [judges] at follows
    obtain ⟨target, e, -, made⟩ := exists_hop_of_verdict follows
    obtain ⟨trail, -, rfl⟩ := eq_next_of_hop made
    rfl

namespace PolicyChain

variable {chain : PolicyChain}

/-- Policies that overlook markers decide about an unmarked response as about a marked one. -/
lemma checkAll_unmarked (oblivious : ∀ p ∈ ps, p.IsOblivious) (c : Crawler) (a : Arrival) :
    checkAll c none ps a.unmarked = (checkAll c none ps a).map Verdict.unmarked := by
  induction ps generalizing a with
  | nil => rfl
  | cons p ps ih =>
      obtain ⟨first, others⟩ := List.forall_mem_cons.mp oblivious
      cases judged : p.check c a with
      | error e =>
          have same : p.check c a.unmarked = .error e := by rw [first.overlooks, judged]; rfl
          rw [checkAll_none_of_stop same (by simp), checkAll_none_of_stop judged (by simp)]
          rfl
      | ok verdict =>
          cases verdict with
          | pass b =>
              have same : p.check c a.unmarked = .ok (.pass b.unmarked) := by
                rw [first.overlooks, judged]
                rfl
              rw [checkAll_none_of_pass judged, checkAll_none_of_pass same, ih others]
          | follow next =>
              have same : p.check c a.unmarked = .ok (.follow next.unmarked) := by
                rw [first.overlooks, judged]
                rfl
              rw [checkAll_none_of_stop same (by simp), checkAll_none_of_stop judged (by simp)]
              rfl

lemma isOblivious_without (oblivious : ∀ p ∈ chain.policies, p.IsOblivious) (n : String) :
    ∀ p ∈ (chain.without n).policies, p.IsOblivious :=
  fun p mem => oblivious p (List.mem_filter.mp mem).1

/-- **A marker for one name acts as the removal of its policies**: a chain decides about a response
with it as the chain without them does about the same response unmarked. -/
theorem check_without (marked : a.request.skip = some (.one n))
    (oblivious : ∀ p ∈ (chain.without n).policies, p.IsOblivious) (c : Crawler) :
    (chain.without n).check c a.unmarked = (chain.check c a).map Verdict.unmarked := by
  rw [check_of_unmarked rfl, checkAll_unmarked oblivious, check, marked, checkAll_one]
  rfl

/-- A request that follows has the marker of the request before. -/
lemma skip_of_checkAll {skip : Option Skip} (oblivious : ∀ p ∈ ps, p.IsOblivious)
    (follows : checkAll c skip ps a = .ok (.follow next)) :
    next.request.skip = a.request.skip := by
  induction ps with
  | nil => cases follows
  | cons p ps ih =>
      obtain ⟨first, others⟩ := List.forall_mem_cons.mp oblivious
      rw [checkAll] at follows
      split_ifs at follows
      · exact ih others follows
      · split at follows
        · next b passes =>
            obtain rfl := first.handsBack _ _ _ passes
            exact ih others follows
        · exact first.carries _ _ _ follows

end PolicyChain

namespace ProxyRules

lemma reconcile_unmarked (req : Request) : reconcile req.unmarked = (reconcile req).unmarked := by
  cases owned : req.proxy.owner with
  | some owner =>
      have owned' : req.unmarked.proxy.owner = some owner := owned
      rw [reconcile_of_owner owned, reconcile_of_owner owned', apply_ite Request.unmarked]
      rfl
  | none =>
      have owned' : req.unmarked.proxy.owner = none := owned
      cases used : req.proxy.proxy with
      | some proxy =>
          have used' : req.unmarked.proxy.proxy = some proxy := used
          rw [reconcile_of_proxy owned used, reconcile_of_proxy owned' used',
            apply_ite Request.unmarked]
          rfl
      | none =>
          have used' : req.unmarked.proxy.proxy = none := used
          rw [reconcile_of_no_proxy owned used, reconcile_of_no_proxy owned' used',
            apply_ite Request.unmarked]
          rfl

/-- Making a request ready leaves its marker alone. -/
lemma routed_unmarked (req : Request) (endpoint : Option Endpoint) (byRule : Bool) :
    routed req.unmarked endpoint byRule = (routed req endpoint byRule).unmarked := by
  rw [routed, routed]
  cases endpoint.bind (·.credentials) with
  | some creds => rfl
  | none => exact reconcile_unmarked (assign req (endpoint.map (·.address)) byRule)

lemma prepare_unmarked (rules : ProxyRules) (req : Request) :
    rules.prepare req.unmarked = (rules.prepare req).map Request.unmarked := by
  rw [prepare_eq, prepare_eq]
  change (rules.select req.proxy req.url).map _ = _
  cases rules.select req.proxy req.url with
  | error e => rfl
  | ok choice => exact congrArg Except.ok (routed_unmarked req choice.1 choice.2)

lemma skip_of_prepare {rules : ProxyRules} {req after : Request}
    (ready : rules.prepare req = .ok after) : after.skip = req.skip := by
  obtain ⟨headers, proxy, rfl, -⟩ := exists_frame_of_prepare ready
  rfl

end ProxyRules

end Wayfarer
