import Wayfarer.Proofs.Fetch.Record
import Wayfarer.Proofs.Hop.Skip

/-!
Runs of requests that are exempt from policies.

* `Round.ofVerdict`: what a round comes to by the verdict on its response;
* `Run.unmarked`, `Round.unmarked`: without markers;
* `Downloader.without`: a downloader without the policies of a name;
* `Downloader.fetch_unmarked_of_round`: two downloaders of which the rounds come to the same but for
  the markers fetch the same but for them;
* `Downloader.round_without`, `Downloader.carries_round`: a round with a marker for one name is one
  without its policies, and the request that follows has the marker;
* `PolicyChain.skip_removes`: **markers act as the removal of policies**, for a response and for
  whole runs.
-/

namespace Wayfarer

/-! ### Rounds -/

/-- What a round in which a request is sent comes to by the verdict on the response. -/
def Round.ofVerdict (sent : Request) : Except Failure Verdict → Round
  | .error e => .last ⟨[sent], .error e⟩
  | .ok (.pass a) => .last ⟨[sent], .ok a⟩
  | .ok (.follow next) => .follow sent next

namespace Downloader

variable {d : Downloader} {transport : Transport} {j : Journey} {req : Request}

lemma round_of_refused {e : EndpointError} (refuses : d.chain.prepare j.request = .error e) :
    d.round transport j = .last ⟨[], .error (.ofEndpoint e)⟩ := by
  rw [round, refuses]

lemma round_of_unanswered {e : Failure} (ready : d.chain.prepare j.request = .ok req)
    (fails : transport ⟨req, j.past⟩ = .error e) :
    d.round transport j = .last ⟨[req], .error e⟩ := by
  rw [round, ready]
  dsimp only
  rw [fails]

lemma round_of_answered {r : Response} (ready : d.chain.prepare j.request = .ok req)
    (answers : transport ⟨req, j.past⟩ = .ok r) :
    d.round transport j = Round.ofVerdict req (d.chain.check d.crawler ⟨⟨req, j.past⟩, r⟩) := by
  rw [round, ready]
  dsimp only
  rw [answers]
  dsimp only
  cases d.chain.check d.crawler ⟨⟨req, j.past⟩, r⟩ with
  | error e => rfl
  | ok verdict => cases verdict <;> rfl

end Downloader

/-! ### Without markers -/

/-- The run without markers. -/
def Run.unmarked (run : Run) : Run :=
  ⟨run.sent.map Request.unmarked, run.result.map Arrival.unmarked⟩

/-- What a round comes to, without markers. -/
def Round.unmarked : Round → Round
  | last run => last run.unmarked
  | follow sent next => follow sent.unmarked next.unmarked

/-- All requests that a round sends or makes have a marker. -/
def Round.Carries (skip : Option Skip) : Round → Prop
  | last run => ∀ req ∈ run.sent, req.skip = skip
  | follow sent next => sent.skip = skip ∧ next.request.skip = skip

lemma Round.unmarked_ofVerdict (sent : Request) (v : Except Failure Verdict) :
    (Round.ofVerdict sent v).unmarked =
      Round.ofVerdict sent.unmarked (v.map Verdict.unmarked) := by
  cases v with
  | error e => rfl
  | ok verdict => cases verdict <;> rfl

namespace Downloader

variable {d d' : Downloader} {transport transport' : Transport} {j next : Journey} {req : Request}
  {run : Run} {n : String}

/-- The downloader without the policies of a name. -/
def without (d : Downloader) (n : String) : Downloader :=
  ⟨d.crawler, d.chain.without n⟩

/-! ### Runs in step -/

section

variable {inv : Journey → Prop}
  (step : ∀ j, inv j → d'.round transport' j.unmarked = (d.round transport j).unmarked)
  (keep : ∀ j req next, inv j → d.round transport j = .follow req next → inv next)

include step keep

lemma Fetches.unmarked (fetches : d.Fetches transport j run) (holds : inv j) :
    d'.Fetches transport' j.unmarked run.unmarked := by
  induction fetches with
  | @last j run ends =>
      have here := step j holds
      rw [ends] at here
      exact .last here
  | @follow j next req run onward _ ih =>
      have here := step j holds
      rw [onward] at here
      exact .follow here (ih (keep j req next holds onward))

/-- Without markers no runs are lost or won. -/
lemma Fetches.exists_of_unmarked {j' : Journey} {run' : Run}
    (fetches : d'.Fetches transport' j' run') (holds : inv j) (same : j' = j.unmarked) :
    ∃ run, d.Fetches transport j run ∧ run.unmarked = run' := by
  induction fetches generalizing j with
  | @last j' run' ends =>
      rw [same, step j holds] at ends
      cases came : d.round transport j with
      | last run =>
          rw [came] at ends
          cases ends
          exact ⟨run, .last came, rfl⟩
      | follow req next =>
          rw [came] at ends
          cases ends
  | @follow j' next' req' run' onward _ ih =>
      rw [same, step j holds] at onward
      cases came : d.round transport j with
      | last run =>
          rw [came] at onward
          cases onward
      | follow req next =>
          rw [came] at onward
          cases onward
          obtain ⟨run, rest, rfl⟩ := ih (keep j req next holds came) rfl
          exact ⟨run.after req, .follow came rest, rfl⟩

/-- **Downloaders of which the rounds come to the same** but for the markers fetch the same but for
them, or both without an end. -/
theorem fetch_unmarked_of_round (holds : inv j) :
    d'.fetch transport' j.unmarked = (d.fetch transport j).map Run.unmarked := by
  ext run'
  rw [Option.map_eq_some_iff, fetch_eq_some_iff]
  simp only [fetch_eq_some_iff]
  constructor
  · exact fun fetches => fetches.exists_of_unmarked step keep holds rfl
  · rintro ⟨run, fetches, rfl⟩
    exact fetches.unmarked step keep holds

end

/-! ### Runs with a marker -/

/-- A round with a marker for one name is one without its policies. -/
lemma round_without (oblivious : ∀ p ∈ d.chain.policies, p.IsOblivious)
    (same : ∀ k : Journey, k.request.skip = some (.one n) → transport k = transport' k.unmarked)
    (marked : j.request.skip = some (.one n)) :
    (d.without n).round transport' j.unmarked = (d.round transport j).unmarked := by
  have ready : (d.without n).chain.prepare j.unmarked.request =
      (d.chain.prepare j.request).map Request.unmarked :=
    d.chain.rules.prepare_unmarked j.request
  cases made : d.chain.prepare j.request with
  | error e =>
      rw [made] at ready
      rw [round_of_refused made, round_of_refused ready]
      rfl
  | ok req =>
      rw [made] at ready
      have marked' : req.skip = some (.one n) := (ProxyRules.skip_of_prepare made).trans marked
      have answers := (same ⟨req, j.past⟩ marked').symm
      cases answered : transport ⟨req, j.past⟩ with
      | error e =>
          rw [round_of_unanswered made answered,
            round_of_unanswered ready (answers.trans answered)]
          rfl
      | ok r =>
          have judged := PolicyChain.check_without (a := ⟨⟨req, j.past⟩, r⟩) marked'
            (PolicyChain.isOblivious_without oblivious n) d.crawler
          rw [round_of_answered made answered, Round.unmarked_ofVerdict, ← judged]
          exact round_of_answered ready (answers.trans answered)

/-- All requests that a round sends or makes have the marker of the one that it makes ready. -/
lemma carries_round (oblivious : ∀ p ∈ d.chain.policies, p.IsOblivious) (transport : Transport)
    (j : Journey) : (d.round transport j).Carries j.request.skip := by
  cases made : d.chain.prepare j.request with
  | error e =>
      rw [round_of_refused made]
      exact List.forall_mem_nil _
  | ok req =>
      have kept : req.skip = j.request.skip := ProxyRules.skip_of_prepare made
      have single : ∀ sent ∈ [req], sent.skip = j.request.skip :=
        List.forall_mem_singleton.mpr kept
      cases answered : transport ⟨req, j.past⟩ with
      | error e =>
          rw [round_of_unanswered made answered]
          exact single
      | ok r =>
          rw [round_of_answered made answered]
          cases judged : d.chain.check d.crawler ⟨⟨req, j.past⟩, r⟩ with
          | error e => exact single
          | ok verdict =>
              cases verdict with
              | pass a => exact single
              | follow next =>
                  exact ⟨kept, (PolicyChain.skip_of_checkAll oblivious judged).trans kept⟩

/-- **The marker travels along**: all requests of a run have the one of the first. -/
lemma Fetches.skip_of_mem_sent (oblivious : ∀ p ∈ d.chain.policies, p.IsOblivious)
    (fetches : d.Fetches transport j run) : ∀ req ∈ run.sent, req.skip = j.request.skip := by
  induction fetches with
  | @last j run ends =>
      have carries := carries_round oblivious transport j
      rwa [ends] at carries
  | @follow j next req run onward _ ih =>
      have carries := carries_round oblivious transport j
      rw [onward] at carries
      exact List.forall_mem_cons.mpr
        ⟨carries.1, fun req mem => (ih req mem).trans carries.2⟩

/-- **A run with a marker for one name** is, but for the markers, the run of a downloader without
the policies of that name. -/
theorem fetch_without (oblivious : ∀ p ∈ d.chain.policies, p.IsOblivious)
    (same : ∀ k : Journey, k.request.skip = some (.one n) → transport k = transport' k.unmarked)
    (marked : j.request.skip = some (.one n)) :
    (d.without n).fetch transport' j.unmarked = (d.fetch transport j).map Run.unmarked := by
  have step (j : Journey) (marked : j.request.skip = some (.one n)) :
      (d.without n).round transport' j.unmarked = (d.round transport j).unmarked :=
    round_without oblivious same marked
  have keep (j : Journey) (req : Request) (next : Journey)
      (marked : j.request.skip = some (.one n))
      (onward : d.round transport j = .follow req next) : next.request.skip = some (.one n) := by
    have carries := carries_round oblivious transport j
    rw [onward] at carries
    exact carries.2.trans marked
  exact fetch_unmarked_of_round step keep marked

end Downloader

namespace Guide

lemma isOblivious_of_mem_policies {rules : ProxyRules} {guides : List Guide} :
    ∀ p ∈ (chain rules guides).policies, p.IsOblivious :=
  List.forall_mem_map.mpr fun g _ => g.isOblivious

end Guide

/-- **Markers act as the removal of policies.** Whatever the policies, a chain decides about a
response with a marker for one name as the policies of other names do, and with the marker for all
it passes the response on; without a marker the first policy that does not pass on what it is handed
decides, which is the original response where policies hand it back, whatever policies are behind
it. A run of policies for redirects and refresh directives with a marker for one name is the run
without the marker of a downloader without the policies of that name. -/
theorem PolicyChain.skip_removes (chain : PolicyChain) (c : Crawler) (a : Arrival) :
    (∀ n, a.request.skip = some (.one n) →
      chain.check c a = checkAll c none (chain.without n).policies a ∧
        ((∀ p ∈ (chain.without n).policies, p.IsOblivious) →
          (chain.without n).check c a.unmarked = (chain.check c a).map Verdict.unmarked)) ∧
      (a.request.skip = some .all → chain.check c a = .ok (.pass a)) ∧
      (a.request.skip = none → ∀ v, chain.check c a = v ↔ Decided c chain.policies a v) ∧
      (a.request.skip = none → (∀ p ∈ chain.policies, p.HandsBack) →
        (chain.check c a = .ok (.pass a) ∧ ∀ p ∈ chain.policies, p.check c a = .ok (.pass a)) ∨
          ∃ front p back, chain.policies = front ++ p :: back ∧
            (∀ q ∈ front, q.check c a = .ok (.pass a)) ∧
            (∀ b, p.check c a ≠ .ok (.pass b)) ∧
            ∀ back', PolicyChain.check ⟨chain.rules, front ++ p :: back'⟩ c a = p.check c a) ∧
      ∀ (guides : List Guide) (transport transport' : Transport) (n : String) (j : Journey),
        (∀ k : Journey, k.request.skip = some (.one n) → transport k = transport' k.unmarked) →
        j.request.skip = some (.one n) →
        (Downloader.without ⟨c, Guide.chain chain.rules guides⟩ n).fetch transport' j.unmarked =
            (Downloader.fetch ⟨c, Guide.chain chain.rules guides⟩ transport j).map Run.unmarked ∧
          ∀ run, Downloader.fetch ⟨c, Guide.chain chain.rules guides⟩ transport j = some run →
            ∀ req ∈ run.sent, req.skip = some (.one n) := by
  refine ⟨fun n marked => ⟨?_, fun oblivious => check_without marked oblivious c⟩,
    fun marked => ?_, fun unmarked v => ?_, fun unmarked handsBack => ?_, ?_⟩
  · rw [check, marked, checkAll_one]
    rfl
  · rw [check, marked, checkAll_all]
  · rw [check_of_unmarked unmarked]
    exact checkAll_none_eq_iff
  · exact check_of_handsBack unmarked handsBack
  · intro guides transport transport' n j same marked
    refine ⟨Downloader.fetch_without Guide.isOblivious_of_mem_policies same marked, ?_⟩
    intro run fetched req mem
    have fetches := Downloader.fetch_eq_some_iff.mp fetched
    exact (fetches.skip_of_mem_sent Guide.isOblivious_of_mem_policies req mem).trans marked

/-- A request that is exempt from refresh directives. -/
def unrefreshed : Request :=
  { Request.plain .get (.front "http" 1) with skip := some (.one "meta_refresh") }

/-- The request that follows it to another place. -/
def unrefreshedNext : Request :=
  { Request.plain .get (.front "http" 2) with
    trail := ⟨1, some 19, ["http://[::1]/"], [.status 302]⟩
    priority := .clamp 2
    skip := some (.one "meta_refresh") }

/-- What follows a redirect is exempt too, and the rest is as without the policy. -/
theorem exemption_kept_on_redirect :
    ∃ run, Downloader.fetch ⟨default, Guide.chain .empty [.redirect {}, .refresh {} {}]⟩ movedAway
        (Journey.start unrefreshed) = some run ∧
      run.sent = [unrefreshed, unrefreshedNext] ∧
      (∀ req ∈ run.sent, req.skip = some (.one "meta_refresh")) ∧
      Downloader.fetch ⟨default, Guide.chain .empty [.redirect {}]⟩ movedAway
        (Journey.start (Request.plain .get (.front "http" 1))) = some run.unmarked := by
  have leads : Settings.place? {} default
      ⟨⟨unrefreshed, []⟩, .elsewhere (.front "http" 1) (.front "http" 2)⟩ =
        some (.status 302, .front "http" 2, .read) := by
    decide +kernel
  have stays : Settings.place? {} default
      ⟨⟨unrefreshedNext, [unrefreshed]⟩, nothingThere (.front "http" 2)⟩ = none := by
    decide +kernel
  have first : (Settings.downloader {} .empty default).round movedAway
      (Journey.start unrefreshed) = .follow unrefreshed ⟨unrefreshedNext, [unrefreshed]⟩ :=
    Settings.round_of_place rfl rfl leads
  have ready : ProxyRules.empty.prepare unrefreshedNext = .ok unrefreshedNext := rfl
  have second : (Settings.downloader {} .empty default).round movedAway
      ⟨unrefreshedNext, [unrefreshed]⟩ = .last ⟨[unrefreshedNext],
        .ok ⟨⟨unrefreshedNext, [unrefreshed]⟩, nothingThere (.front "http" 2)⟩⟩ := by
    refine (Settings.round_of_answer ready rfl).trans ?_
    rw [stays]
  have fetched := Downloader.fetch_of_follow first
  rw [Downloader.fetch_of_last second] at fetched
  obtain ⟨-, -, -, -, runs⟩ := PolicyChain.skip_removes (Guide.chain .empty []) default
    ⟨Journey.start unrefreshed, nothingThere (.front "http" 2)⟩
  obtain ⟨same, marked⟩ := runs [.redirect {}, .refresh {} {}] movedAway movedAway "meta_refresh"
    (Journey.start unrefreshed) (fun _ _ => rfl) rfl
  have kept : Downloader.without ⟨default, Guide.chain .empty [.redirect {}, .refresh {} {}]⟩
      "meta_refresh" = ⟨default, Guide.chain .empty [.redirect {}]⟩ := by
    with_unfolding_all rfl
  refine ⟨_, fetched, rfl, marked _ fetched, ?_⟩
  rw [← kept]
  exact same.trans (congrArg _ fetched)

end Wayfarer
