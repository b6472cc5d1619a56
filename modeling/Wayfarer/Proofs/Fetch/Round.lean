import Mathlib.Tactic
import Wayfarer.Hop.Fetch
import Wayfarer.Proofs.Hop.Continuation
import Wayfarer.Proofs.Proxy.Prepare

/-!
Rounds of fetching.

* `Downloader.Fetches`: the runs of a downloader, round by round, and `Downloader.fetch_eq_some_iff`:
  they are what it fetches;
* `Settings.place?`: where a response leads under the policies that settings describe, limits
  aside, and `Settings.check_policies`: their verdict on it;
* `Settings.Turn`: all that a round of a downloader can come to that settings describe;
  `Settings.turn_round`, `Settings.round_of_answer` and `Settings.round_of_place`: which of it does.
-/

namespace Wayfarer

/-! ### Runs, round by round -/

namespace Downloader

variable {d : Downloader} {transport : Transport} {j next : Journey} {req : Request} {run : Run}

/-- A run that continues a journey: its last round, or a round and the run of what follows. -/
inductive Fetches (d : Downloader) (transport : Transport) : Journey → Run → Prop
  | last {j : Journey} {run : Run} (ends : d.round transport j = .last run) :
      Fetches d transport j run
  | follow {j next : Journey} {req : Request} {run : Run}
      (onward : d.round transport j = .follow req next) (rest : Fetches d transport next run) :
      Fetches d transport j (run.after req)

lemma fetch_of_last (ends : d.round transport j = .last run) :
    d.fetch transport j = some run := by
  rw [fetch, ends]

lemma fetch_of_follow (onward : d.round transport j = .follow req next) :
    d.fetch transport j = (d.fetch transport next).map (·.after req) := by
  conv_lhs => rw [fetch, onward]
  change (d.fetch transport next).bind _ = _
  cases d.fetch transport next <;> rfl

/-- **What a downloader fetches** are its runs. -/
theorem fetch_eq_some_iff : d.fetch transport j = some run ↔ d.Fetches transport j run := by
  constructor
  · -- the induction is on the approximations of the fixed point
    refine fetch.partial_correctness d transport (d.Fetches transport) ?_ j run
    intro rounds ih j run fetched
    split at fetched
    · next ends =>
        cases fetched
        exact .last ends
    · next onward =>
        obtain ⟨rest, finished, whole⟩ := Option.bind_eq_some_iff.mp fetched
        cases whole
        exact .follow onward (ih _ rest finished)
  · intro fetches
    induction fetches with
    | last ends => exact fetch_of_last ends
    | follow onward _ ih => rw [fetch_of_follow onward, ih, Option.map_some]

end Downloader

/-! ### The verdict of the policies that settings describe -/

namespace Settings

variable {s : Settings} {c : Crawler} {rules : ProxyRules} {a : Arrival}

/-- The policies for responses that settings describe. -/
def policies (s : Settings) : List ResponsePolicy :=
  [.redirect s.redirect, .refresh s.refresh s.redirect]

/-- Where a response leads, limits aside: the reason, target and errand of the first policy that
finds a target. -/
def place? (s : Settings) (c : Crawler) (a : Arrival) : Option (Reason × Url × Errand) :=
  match placeBy? (.redirect s.redirect) a (redirectTarget? s.redirect c a.request a.response) with
  | some place => some (.status a.response.status.code, place)
  | none =>
      (placeBy? (.refresh s.refresh s.redirect) a
        ((refreshTarget? s.refresh a.request a.response).map (·, .read))).map (.refresh, ·)

/-- The verdict on a response is the one on the place where it leads. -/
lemma check_policies (s : Settings) (c : Crawler) (rules : ProxyRules) (a : Arrival) :
    PolicyChain.check ⟨rules, s.policies⟩ c a =
      match s.place? c a with
      | some (reason, place) => verdict s.redirect a reason (some place)
      | none => .ok (.pass a) := by
  rw [PolicyChain.check, policies, checkAll_cons rfl, checkAll_cons rfl, checkAll, place?]
  cases placeBy? (.redirect s.redirect) a
    (redirectTarget? s.redirect c a.request a.response) with
  | some place => rfl
  | none =>
      dsimp only
      cases placeBy? (.refresh s.refresh s.redirect) a
        ((refreshTarget? s.refresh a.request a.response).map (·, .read)) <;> rfl

/-! ### What a round comes to -/

/-- The downloader with the policies that settings describe. -/
def downloader (s : Settings) (rules : ProxyRules) (c : Crawler) : Downloader :=
  ⟨c, rules, s.policies⟩

lemma exists_rules_of_ofSettings {vars : List (String × String)} {d : Downloader}
    (built : Downloader.ofSettings s vars c = .ok d) : ∃ rules, d = s.downloader rules c := by
  rw [Downloader.ofSettings, PolicyChain.ofSettings] at built
  cases made : ProxyRules.ofSettings s.proxy vars with
  | error e =>
      rw [made] at built
      cases built
  | ok rules =>
      rw [made] at built
      cases built
      exact ⟨rules, rfl⟩

/-- **What a round comes to.** The latest request is made ready or not, sent in vain or answered,
and the response stays or leads on, as far as the limits allow. -/
inductive Turn (s : Settings) (rules : ProxyRules) (c : Crawler) (transport : Transport)
    (j : Journey) : Round → Prop
  | refused {e : EndpointError} (refuses : rules.prepare j.request = .error e) :
      Turn s rules c transport j (.last ⟨[], .error (.ofEndpoint e)⟩)
  | unanswered {req : Request} {e : Failure} (ready : rules.prepare j.request = .ok req)
      (fails : transport ⟨req, j.past⟩ = .error e) :
      Turn s rules c transport j (.last ⟨[req], .error e⟩)
  | arrived {req : Request} {r : Response} (ready : rules.prepare j.request = .ok req)
      (answers : transport ⟨req, j.past⟩ = .ok r)
      (stays : s.place? c ⟨⟨req, j.past⟩, r⟩ = none) :
      Turn s rules c transport j (.last ⟨[req], .ok ⟨⟨req, j.past⟩, r⟩⟩)
  | dropped {req : Request} {r : Response} (ready : rules.prepare j.request = .ok req)
      (answers : transport ⟨req, j.past⟩ = .ok r)
      (leads : (s.place? c ⟨⟨req, j.past⟩, r⟩).isSome)
      (refuses : s.redirect.limits.Refuses req.trail) :
      Turn s rules c transport j
        (.last ⟨[req], .error (.tooManyHops ⟨req.url.text, req.trail.hops + 1⟩)⟩)
  | followed {req : Request} {r : Response} {reason : Reason} {target : Url} {e : Errand}
      {next : Journey} (ready : rules.prepare j.request = .ok req)
      (answers : transport ⟨req, j.past⟩ = .ok r)
      (leads : s.place? c ⟨⟨req, j.past⟩, r⟩ = some (reason, target, e))
      (made : hop s.redirect ⟨req, j.past⟩ target e reason = .ok next) :
      Turn s rules c transport j (.follow req next)

/-- A round with an answer comes to what the place says where the answer leads. -/
lemma round_of_answer {transport : Transport} {j : Journey} {req : Request} {r : Response}
    (ready : rules.prepare j.request = .ok req) (answers : transport ⟨req, j.past⟩ = .ok r) :
    (s.downloader rules c).round transport j =
      match s.place? c ⟨⟨req, j.past⟩, r⟩ with
      | none => .last ⟨[req], .ok ⟨⟨req, j.past⟩, r⟩⟩
      | some (reason, target, e) =>
          match hop s.redirect ⟨req, j.past⟩ target e reason with
          | .ok next => .follow req next
          | .error refusal => .last ⟨[req], .error (.tooManyHops refusal)⟩ := by
  rw [Downloader.round, downloader, PolicyChain.prepare, ready]
  dsimp only
  rw [answers]
  dsimp only
  rw [check_policies]
  cases s.place? c ⟨⟨req, j.past⟩, r⟩ with
  | none => rfl
  | some place =>
      dsimp only [verdict]
      cases hop s.redirect ⟨req, j.past⟩ place.2.1 place.2.2 place.1 <;> rfl

/-- Where the answer leads on, it comes to a hop or to the refusal of one. -/
lemma round_of_place {transport : Transport} {j : Journey} {req : Request} {r : Response}
    {reason : Reason} {target : Url} {e : Errand} (ready : rules.prepare j.request = .ok req)
    (answers : transport ⟨req, j.past⟩ = .ok r)
    (leads : s.place? c ⟨⟨req, j.past⟩, r⟩ = some (reason, target, e)) :
    (s.downloader rules c).round transport j =
      match hop s.redirect ⟨req, j.past⟩ target e reason with
      | .ok next => .follow req next
      | .error refusal => .last ⟨[req], .error (.tooManyHops refusal)⟩ := by
  rw [round_of_answer ready answers, leads]

/-- A round comes to one of these. -/
theorem turn_round (s : Settings) (rules : ProxyRules) (c : Crawler) (transport : Transport)
    (j : Journey) : s.Turn rules c transport j ((s.downloader rules c).round transport j) := by
  cases ready : rules.prepare j.request with
  | error e =>
      rw [Downloader.round, downloader, PolicyChain.prepare, ready]
      exact .refused ready
  | ok req =>
      cases answers : transport ⟨req, j.past⟩ with
      | error e =>
          rw [Downloader.round, downloader, PolicyChain.prepare, ready]
          dsimp only
          rw [answers]
          exact .unanswered ready answers
      | ok r =>
          cases leads : s.place? c ⟨⟨req, j.past⟩, r⟩ with
          | none =>
              rw [round_of_answer ready answers, leads]
              exact .arrived ready answers leads
          | some place =>
              obtain ⟨reason, target, e⟩ := place
              rw [round_of_place ready answers leads]
              cases made : hop s.redirect ⟨req, j.past⟩ target e reason with
              | ok next => exact .followed ready answers leads made
              | error refusal =>
                  obtain ⟨refuses, rfl⟩ := refuses_of_hop made
                  exact .dropped ready answers (Option.isSome_of_eq_some leads) refuses

end Settings

end Wayfarer
