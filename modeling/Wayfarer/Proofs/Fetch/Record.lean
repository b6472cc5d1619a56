import Wayfarer.Hop.Report
import Wayfarer.Proofs.Fetch.Bound

/-!
What is recorded of a run.

* `Request.Precedes`: the trail of the next request is that of a request after a hop;
* `Settings.isChain_sent`: each request that a run sends is recorded in the next one;
* `Settings.journey_of_fetches`: the journey at whose end a run arrives is what was sent;
* `trail_of_isChain`, `toNat_of_isChain`, `reasons_of_isChain`: the trails in such a chain, from an
  empty one on, and the numbers of their hops;
* `Downloader.report_of_fetch`: **the history, the report and what was sent agree.**
-/

namespace Wayfarer

variable {s : Settings} {rules : ProxyRules} {c : Crawler} {transport : Transport}
variable {j next : Journey} {req : Request} {run : Run} {a : Arrival}

/-- The trail of the next request is the one of this request after a hop from its URL. -/
def Request.Precedes (limits : Limits) (req next : Request) : Prop :=
  ∃ reason, req.trail.advance req.url.text reason limits = .ok next.trail

lemma Request.Precedes.trail {limits : Limits} {next : Request}
    (before : req.Precedes limits next) :
    next.trail.hops = req.trail.hops + 1 ∧ next.trail.urls = req.trail.urls ++ [req.url.text] ∧
      ∃ reason, next.trail.reasons = req.trail.reasons ++ [reason] := by
  obtain ⟨reason, advanced⟩ := before
  obtain ⟨-, hops, -, urls, reasons⟩ := Trail.eq_of_advance advanced
  exact ⟨hops, urls, reason, reasons⟩

/-! ### What a run sends -/

namespace Settings

/-- The first request that a run sends has the trail of the journey, and each one is recorded in
the next. -/
lemma isChain_sent (fetches : (s.downloader rules c).Fetches transport j run) :
    (∀ sent, run.sent.head? = some sent → sent.trail = j.request.trail) ∧
      List.IsChain (Request.Precedes s.redirect.limits) run.sent := by
  induction fetches with
  | @last j run ends =>
      have turn := turn_round s rules c transport j
      rw [ends] at turn
      cases turn with
      | refused => simp
      | unanswered ready | arrived ready | dropped ready =>
          simp [ProxyRules.trail_of_prepare ready]
  | @follow j next req run onward _ ih =>
      have turn := turn_round s rules c transport j
      rw [onward] at turn
      cases turn with
      | followed ready answers leads made =>
          obtain ⟨first, chain⟩ := ih
          refine ⟨?_, chain.cons fun sent began => ?_⟩
          · simp [Run.after, ProxyRules.trail_of_prepare ready]
          · rw [Request.Precedes, first sent began]
            exact ⟨_, (trail_of_hop made).2⟩

/-- A run arrives, if it does, at the end of what it sent, with the answer to the last request. -/
lemma journey_of_fetches (fetches : (s.downloader rules c).Fetches transport j run)
    (arrives : run.result = .ok a) :
    ∃ earlier, run.sent = earlier ++ [a.request] ∧ a.journey.past = earlier.reverse ++ j.past ∧
      transport a.journey = .ok a.response := by
  induction fetches with
  | @last j run ends =>
      have turn := turn_round s rules c transport j
      rw [ends] at turn
      cases turn with
      | refused | unanswered | dropped => cases arrives
      | arrived ready answers =>
          cases arrives
          exact ⟨[], rfl, rfl, answers⟩
  | @follow j next req run onward _ ih =>
      have turn := turn_round s rules c transport j
      rw [onward] at turn
      cases turn with
      | followed ready answers leads made =>
          obtain ⟨earlier, sent, past, answered⟩ := ih arrives
          refine ⟨req :: earlier, ?_, ?_, answered⟩
          · rw [Run.after, sent, List.cons_append]
          · rw [past, (trail_of_hop made).1]
            simp

end Settings

/-! ### Trails along a chain -/

section Trails

variable {limits : Limits} {sent : List Request}

/-- In a chain that begins with an empty trail, the trail of each request has a hop for each
request before it. -/
lemma trail_of_isChain (chain : List.IsChain (Request.Precedes limits) sent)
    (fresh : ∀ first, sent.head? = some first →
      first.trail.hops = 0 ∧ first.trail.urls = [] ∧ first.trail.reasons = []) :
    ∀ (i : Nat) (req : Request), sent[i]? = some req →
      req.trail.hops = .ofNat i ∧ req.trail.urls = (sent.take i).map (·.url.text) ∧
        req.trail.reasons.length = i := by
  intro i
  induction i with
  | zero =>
      intro req h
      obtain ⟨hops, urls, reasons⟩ := fresh req (List.head?_eq_getElem? ▸ h)
      exact ⟨hops, urls, congrArg List.length reasons⟩
  | succ i ih =>
      intro req h
      obtain ⟨short, rfl⟩ := List.getElem?_eq_some_iff.mp h
      obtain ⟨hops, urls, reasons⟩ := ih sent[i] (List.getElem?_eq_getElem _)
      obtain ⟨hops', urls', reason, reasons'⟩ :=
        (List.isChain_iff_getElem.mp chain i short).trail
      refine ⟨by rw [hops', hops, UInt32.ofNat_add, UInt32.ofNat_one], ?_, ?_⟩
      · rw [urls', urls, List.take_succ_eq_append_getElem (Nat.lt_of_succ_lt short),
          List.map_append]
        rfl
      · rw [reasons', List.length_append, reasons]
        rfl

/-- These hops are numbered from zero on, if the limits end the chain before the numbers end. -/
lemma toNat_of_isChain (chain : List.IsChain (Request.Precedes limits) sent)
    (fresh : ∀ first, sent.head? = some first → first.trail.hops = 0)
    (ends : limits.countdown = true ∨ limits.maxHops.toNat + 1 < UInt32.size) :
    ∀ (i : Nat) (req : Request), sent[i]? = some req →
      req.trail.hops.toNat = i ∧ limits.Contains req.trail := by
  intro i
  induction i with
  | zero =>
      intro req h
      have zero := fresh req (List.head?_eq_getElem? ▸ h)
      exact ⟨congrArg UInt32.toNat zero, Limits.contains_of_zero zero ends⟩
  | succ i ih =>
      intro req h
      obtain ⟨short, rfl⟩ := List.getElem?_eq_some_iff.mp h
      obtain ⟨number, contains⟩ := ih sent[i] (List.getElem?_eq_getElem _)
      obtain ⟨reason, advanced⟩ := List.isChain_iff_getElem.mp chain i short
      obtain ⟨free, hops, -⟩ := Trail.eq_of_advance advanced
      refine ⟨?_, contains.of_advance advanced⟩
      rw [hops, Trail.toNat_succ (contains.hasRoom free), number]

/-- In a chain the reasons of a request are the first ones of every later request. -/
lemma reasons_of_isChain (chain : List.IsChain (Request.Precedes limits) sent)
    {i k : Nat} {req later : Request} (h : sent[i]? = some req) (after : sent[k]? = some later)
    (le : i ≤ k) : req.trail.reasons <+: later.trail.reasons := by
  induction k, le using Nat.le_induction generalizing later with
  | base =>
      rw [Option.some.inj (h.symm.trans after)]
  | succ k le ih =>
      obtain ⟨short, rfl⟩ := List.getElem?_eq_some_iff.mp after
      obtain ⟨_, _, reason, reasons⟩ := (List.isChain_iff_getElem.mp chain k short).trail
      rw [reasons]
      exact (ih (List.getElem?_eq_getElem _)).trans (List.prefix_append _ _)

end Trails

/-! ### The record of a run -/

/-- **History, report and what was sent agree.** Where a request without a history leads to a
response, by a downloader that settings describe, the requests that were sent are those of the
journey, in order, and the report tells the parts of each; and the trail of each has one hop for
each request before. The count of these has thirty-two bits, which is as good as the number of
requests unless the limit is the greatest number and chains do not count down. -/
theorem Downloader.report_of_fetch {vars : List (String × String)} {d : Downloader}
    (built : Downloader.ofSettings s vars c = .ok d)
    (fresh : req.trail.hops = 0 ∧ req.trail.urls = [] ∧ req.trail.reasons = [])
    (fetched : d.fetch transport (Journey.start req) = some run) (arrives : run.result = .ok a) :
    ∃ earlier, run.sent = earlier ++ [a.request] ∧ a.journey.past = earlier.reverse ∧
      transport a.journey = .ok a.response ∧
      a.request.trail.hops = .ofNat earlier.length ∧
      a.request.trail.urls = earlier.map (·.url.text) ∧
      a.request.trail.reasons.length = earlier.length ∧
      (∀ (i : Nat) (sent : Request), run.sent[i]? = some sent →
        sent.trail.hops = .ofNat i ∧ sent.trail.urls = a.request.trail.urls.take i ∧
          sent.trail.reasons = a.request.trail.reasons.take i) ∧
      (s.redirect.countdown = true ∨ s.redirect.maxHops.toNat + 1 < UInt32.size →
        a.request.trail.hops.toNat = earlier.length ∧
        ∀ (i : Nat) (sent : Request), run.sent[i]? = some sent → sent.trail.hops.toNat = i) ∧
      (Report.of a).hops = run.sent.map fun sent => {
        method := sent.method.text
        url := sent.url.text
        headers := sent.headers.toList.map fun (name, value) =>
          (name.text, String.ofList (Utf8.decodeLossy value.bytes))
        bodySize := sent.body.length
        priority := sent.priority.value
        trail := sent.trail
        proxy := sent.proxy } := by
  obtain ⟨rules, rfl⟩ := Settings.exists_rules_of_ofSettings built
  have fetches := Downloader.fetch_eq_some_iff.mp fetched
  obtain ⟨first, chain⟩ := Settings.isChain_sent fetches
  obtain ⟨earlier, sent, past, answered⟩ := Settings.journey_of_fetches fetches arrives
  change a.journey.past = earlier.reverse ++ [] at past
  rw [List.append_nil] at past
  have trails := trail_of_isChain chain fun began h => by
    rw [first began h]
    exact fresh
  have last : run.sent[earlier.length]? = some a.request := by simp [sent]
  obtain ⟨hops, urls, reasons⟩ := trails _ _ last
  have before : run.sent.take earlier.length = earlier := by simp [sent]
  rw [before] at urls
  refine ⟨earlier, sent, past, answered, hops, urls, reasons, ?_, fun ends => ?_, ?_⟩
  · intro i req' h
    obtain ⟨hops', urls', reasons'⟩ := trails i req' h
    have le : i ≤ earlier.length := by
      obtain ⟨short, _⟩ := List.getElem?_eq_some_iff.mp h
      rw [sent, List.length_append, List.length_singleton] at short
      omega
    have front := List.prefix_iff_eq_take.mp (reasons_of_isChain chain h last le)
    rw [reasons'] at front
    refine ⟨hops', ?_, front⟩
    rw [urls', urls, ← List.map_take, ← before, List.take_take, min_eq_left le]
  · have zero : ∀ began, run.sent.head? = some began → began.trail.hops = 0 := fun began h => by
      rw [first began h]
      exact fresh.1
    have numbers := toNat_of_isChain chain zero ends
    exact ⟨(numbers _ _ last).1, fun i req' h => (numbers i req' h).1⟩
  · have listed : (Report.of a).hops = run.sent.map Request.summary := by
      rw [Report.of, Journey.requests, past, sent]
      simp [Arrival.request]
    exact listed

/-- Settings that name a proxy with credentials. -/
def Settings.oneProxy : Settings := { proxy := { http := some "http://user:pw@[::9]:3128" } }

/-- The request for the front page of `[::n]`, through this proxy. -/
def proxied (n : Nat) (trail : Trail) (priority : Priority) : Request :=
  { Request.plain .get (.front "http" n) with
    headers := Headers.empty.insert .proxyAuthorization (Credentials.field ⟨"user", "pw"⟩)
    trail
    priority
    proxy := ⟨some "http://[::9]:3128", false, some "http://[::9]:3128", true⟩ }

/-- The first request, made ready. -/
def sentFirst : Request := proxied 1 .start .normal

/-- The request that follows it. -/
def sentNext : Request :=
  proxied 2 ⟨1, some 19, ["http://[::1]/"], [.status 302]⟩ (.clamp 2)

/-- There is nothing at a place. -/
def nothingThere (u : Url) : Response :=
  ⟨.notFound, u, .empty, []⟩

/-- What was at one place is at another one, and there is nothing there. -/
def movedAway : Transport := fun j =>
  if j.url = .front "http" 1 then .ok (.elsewhere (.front "http" 1) (.front "http" 2))
  else .ok (nothingThere (.front "http" 2))

/-- The first request is recorded as it was sent, and the report shows both. -/
theorem report_of_movedAway :
    ∃ d run a, Downloader.ofSettings .oneProxy [] default = .ok d ∧
      d.fetch movedAway (Journey.start (Request.plain .get (.front "http" 1))) = some run ∧
      run.result = .ok a ∧ a.journey.past = [sentFirst] ∧
      a.request.trail.urls = ["http://[::1]/"] ∧
      (Report.of a).hops = [
        { method := "GET"
          url := "http://[::1]/"
          headers := [("proxy-authorization", "Basic dXNlcjpwdw==")]
          bodySize := 0
          priority := 0
          trail := ⟨0, none, [], []⟩
          proxy := ⟨some "http://[::9]:3128", false, some "http://[::9]:3128", true⟩ },
        { method := "GET"
          url := "http://[::2]/"
          headers := [("proxy-authorization", "Basic dXNlcjpwdw==")]
          bodySize := 0
          priority := 2
          trail := ⟨1, some 19, ["http://[::1]/"], [.status 302]⟩
          proxy := ⟨some "http://[::9]:3128", false, some "http://[::9]:3128", true⟩ }] := by
  have built : Downloader.ofSettings .oneProxy [] default =
      .ok (Settings.oneProxy.downloader (.one "http" []) default) := by
    with_unfolding_all rfl
  have leads : Settings.oneProxy.place? default
      ⟨⟨sentFirst, []⟩, .elsewhere (.front "http" 1) (.front "http" 2)⟩ =
        some (.status 302, .front "http" 2, .read) := by
    decide +kernel
  have stays : Settings.oneProxy.place? default
      ⟨⟨sentNext, [sentFirst]⟩, nothingThere (.front "http" 2)⟩ = none := by
    decide +kernel
  have first : (Settings.oneProxy.downloader (.one "http" []) default).round movedAway
      (Journey.start (Request.plain .get (.front "http" 1))) =
        .follow sentFirst ⟨sentNext, [sentFirst]⟩ :=
    Settings.round_of_place rfl rfl leads
  have ready : (ProxyRules.one "http" []).prepare sentNext = .ok sentNext := by
    with_unfolding_all rfl
  have second : (Settings.oneProxy.downloader (.one "http" []) default).round movedAway
      ⟨sentNext, [sentFirst]⟩ =
        .last ⟨[sentNext], .ok ⟨⟨sentNext, [sentFirst]⟩, nothingThere (.front "http" 2)⟩⟩ := by
    refine (Settings.round_of_answer ready rfl).trans ?_
    rw [stays]
  have fetched : (Settings.oneProxy.downloader (.one "http" []) default).fetch movedAway
      (Journey.start (Request.plain .get (.front "http" 1))) =
        some ⟨[sentFirst, sentNext],
          .ok ⟨⟨sentNext, [sentFirst]⟩, nothingThere (.front "http" 2)⟩⟩ := by
    rw [Downloader.fetch_of_follow first, Downloader.fetch_of_last second]
    rfl
  obtain ⟨earlier, sent, past, _, _, urls, _, _, _, hops⟩ :=
    Downloader.report_of_fetch built ⟨rfl, rfl, rfl⟩ fetched rfl
  obtain rfl : earlier = [sentFirst] := (List.append_inj_left' sent rfl).symm
  exact ⟨_, _, _, built, fetched, rfl, past, urls, hops.trans (by decide +kernel)⟩

end Wayfarer
