import Wayfarer.Proofs.Fetch.Round
import Wayfarer.Proofs.Hop.Course

/-!
How many requests are sent.

* `Settings.Numbered`: every hop that a run asks for has a number, which `Settings.numbered_of_left`
  shows where the limits see to it;
* `Settings.Bounded`: a run that makes no more hops than are left at its start, each of which uses
  up one, and that fails where one more would follow;
* `Settings.bounded_of_nil`, `Settings.bounded_of_single`, `Settings.Bounded.after`: the runs within
  these bounds, from the last round back;
* `Downloader.exists_fetch_of_ofSettings`: **fetching ends** within them, whatever is answered.
-/

namespace Wayfarer

variable {s : Settings} {rules : ProxyRules} {c : Crawler} {transport : Transport}
variable {j next : Journey} {req : Request} {run : Run}

/-! ### Numbers of hops -/

/-- A round is followed by another one. -/
def Downloader.Onward (d : Downloader) (transport : Transport) (j next : Journey) : Prop :=
  ∃ req, d.round transport j = .follow req next

namespace Settings

/-- The latest request of a journey is made ready and answered, and the response leads on. -/
def LeadsOn (s : Settings) (d : Downloader) (transport : Transport) (j : Journey) : Prop :=
  ∃ req r, d.chain.prepare j.request = .ok req ∧ transport ⟨req, j.past⟩ = .ok r ∧
    (s.place? d.crawler ⟨⟨req, j.past⟩, r⟩).isSome

/-- Every hop that a run from a journey asks for has a number. -/
def Numbered (s : Settings) (d : Downloader) (transport : Transport) (j : Journey) : Prop :=
  ∀ later, Relation.ReflTransGen (d.Onward transport) j later → s.LeadsOn d transport later →
    later.request.trail.HasRoom

lemma Numbered.of_onward {d : Downloader} (numbered : s.Numbered d transport j)
    (onward : d.Onward transport j next) : s.Numbered d transport next :=
  fun later rounds => numbered later (.head onward rounds)

/-- A round that is followed by another one leads on, and makes a hop from its request. -/
lemma exists_advance_of_onward (onward : (s.downloader rules c).Onward transport j next) :
    s.LeadsOn (s.downloader rules c) transport j ∧ ∃ url reason,
      j.request.trail.advance url reason s.redirect.limits = .ok next.request.trail := by
  obtain ⟨req, comes⟩ := onward
  have turn := turn_round s rules c transport j
  rw [comes] at turn
  cases turn with
  | followed ready answers leads made =>
      have advanced := (trail_of_hop made).2
      dsimp only at advanced
      rw [ProxyRules.trail_of_prepare ready] at advanced
      exact ⟨⟨req, _, ready, answers, Option.isSome_of_eq_some leads⟩, _, _, advanced⟩

section Numbers

variable (small : j.request.trail.hops.toNat + s.redirect.limits.left j.request.trail + 1 <
  UInt32.size)

include small

/-- As long as there are numbers, the hops that were made and those that are left stay the same
together. -/
lemma add_left_of_rounds {later : Journey}
    (rounds : Relation.ReflTransGen ((s.downloader rules c).Onward transport) j later) :
    later.request.trail.hops.toNat + s.redirect.limits.left later.request.trail =
      j.request.trail.hops.toNat + s.redirect.limits.left j.request.trail := by
  induction rounds with
  | refl => rfl
  | @tail before _ _ onward ih =>
      obtain ⟨-, url, reason, advanced⟩ := exists_advance_of_onward onward
      have room : before.request.trail.HasRoom := by
        rw [Trail.HasRoom]
        omega
      rw [Limits.add_left_of_advance room advanced, ih]

/-- Where the limits end before the numbers do, all hops have numbers. -/
lemma numbered_of_left : s.Numbered (s.downloader rules c) transport j := by
  intro later rounds _
  have same := add_left_of_rounds small rounds
  rw [Trail.HasRoom]
  omega

end Numbers

/-! ### Bounds -/

/-- A run from a journey within the bounds that settings set. -/
structure Bounded (s : Settings) (c : Crawler) (transport : Transport) (j : Journey) (run : Run) :
    Prop where
  /-- At most one request is sent, and one more for each hop that was left. -/
  length_le : run.sent.length ≤ s.redirect.limits.left j.request.trail + 1
  /-- Each request has come one hop further than the one before, and has one hop less left. -/
  unit : ∀ (i : Nat) (sent : Request), run.sent[i]? = some sent →
    sent.trail.hops.toNat = j.request.trail.hops.toNat + i ∧
      s.redirect.limits.left sent.trail + i = s.redirect.limits.left j.request.trail
  /-- If so many requests are sent and the last response leads on, that hop is refused. -/
  refused : ∀ (last : Request) (r : Response),
    run.sent[s.redirect.limits.left j.request.trail]? = some last →
    transport ⟨last, (run.sent.take (s.redirect.limits.left j.request.trail)).reverse ++ j.past⟩ =
      .ok r →
    (s.place? c ⟨⟨last,
      (run.sent.take (s.redirect.limits.left j.request.trail)).reverse ++ j.past⟩, r⟩).isSome →
    ∃ n : UInt32,
      n.toNat = j.request.trail.hops.toNat + s.redirect.limits.left j.request.trail + 1 ∧
        run.result = .error (.tooManyHops ⟨last.url.text, n⟩)

/-- A run that sends nothing is within the bounds. -/
lemma bounded_of_nil {result : Except Failure Arrival} :
    s.Bounded c transport j ⟨[], result⟩ where
  length_le := Nat.zero_le _
  unit i sent h := by simp at h
  refused last r h := by simp at h

/-- A run that sends one request is within the bounds if that request is refused a hop with a number
that its response asks for where none is left. -/
lemma bounded_of_single {result : Except Failure Arrival} (same : req.trail = j.request.trail)
    (refuses : ∀ r, s.redirect.limits.left req.trail = 0 → transport ⟨req, j.past⟩ = .ok r →
      (s.place? c ⟨⟨req, j.past⟩, r⟩).isSome →
      req.trail.HasRoom ∧ result = .error (.tooManyHops ⟨req.url.text, req.trail.hops + 1⟩)) :
    s.Bounded c transport j ⟨[req], result⟩ where
  length_le := by simp
  unit i sent h := by
    obtain ⟨rfl, rfl⟩ : i = 0 ∧ req = sent := by simpa [List.getElem?_singleton] using h
    simp [same]
  refused last r h answers leads := by
    rw [← same] at h answers leads ⊢
    obtain ⟨exhausted, rfl⟩ : s.redirect.limits.left req.trail = 0 ∧ req = last := by
      simpa [List.getElem?_singleton] using h
    rw [exhausted] at answers leads ⊢
    obtain ⟨room, refused⟩ := refuses r exhausted answers leads
    exact ⟨_, Trail.toNat_succ room, refused⟩

/-- A hop in front of a run uses up one that was left. -/
lemma Bounded.after {target : Url} {e : Errand} {reason : Reason}
    (rest : s.Bounded c transport next run) (same : req.trail = j.request.trail)
    (room : req.trail.HasRoom)
    (made : hop s.redirect ⟨req, j.past⟩ target e reason = .ok next) :
    s.Bounded c transport j (run.after req) := by
  obtain ⟨past, advanced⟩ := trail_of_hop made
  have less := Limits.left_of_advance room advanced
  have hops := Limits.add_left_of_advance room advanced
  dsimp only at past less hops
  rw [same] at less hops
  constructor
  · have length_le := rest.length_le
    simp only [Run.after, List.length_cons]
    omega
  · intro i sent h
    cases i with
    | zero =>
        obtain rfl : req = sent := by simpa [Run.after] using h
        simp [same]
    | succ i =>
        obtain ⟨further, left⟩ := rest.unit i sent (by simpa [Run.after] using h)
        omega
  · intro last r h answers leads
    have front : ((run.after req).sent.take (s.redirect.limits.left j.request.trail)).reverse ++
        j.past = (run.sent.take (s.redirect.limits.left next.request.trail)).reverse ++
          next.past := by
      rw [← less, past]
      simp [Run.after]
    rw [front] at answers leads
    rw [← less] at h
    obtain ⟨n, number, refused⟩ :=
      rest.refused last r (by simpa [Run.after] using h) answers leads
    exact ⟨n, by rw [number, hops], refused⟩

/-- Fetching ends within the bounds, whatever is answered, if all hops have numbers. -/
lemma exists_bounded (numbered : s.Numbered (s.downloader rules c) transport j) :
    ∃ run, (s.downloader rules c).fetch transport j = some run ∧ s.Bounded c transport j run := by
  -- the hops that are left become fewer with every round that is followed by another
  induction left : s.redirect.limits.left j.request.trail using Nat.strong_induction_on
    generalizing j with
  | _ n ih =>
    have turn := turn_round s rules c transport j
    cases comes : (s.downloader rules c).round transport j with
    | last run =>
        rw [comes] at turn
        refine ⟨run, Downloader.fetch_of_last comes, ?_⟩
        cases turn with
        | refused => exact bounded_of_nil
        | unanswered ready fails =>
            refine bounded_of_single (ProxyRules.trail_of_prepare ready) fun r _ answers => ?_
            rw [fails] at answers
            cases answers
        | arrived ready answers stays =>
            refine bounded_of_single (ProxyRules.trail_of_prepare ready) fun r _ again leads => ?_
            obtain rfl := Except.ok.inj (answers.symm.trans again)
            rw [stays] at leads
            cases leads
        | dropped ready =>
            have same := ProxyRules.trail_of_prepare ready
            refine bounded_of_single same fun r _ answers leads => ⟨?_, rfl⟩
            rw [same]
            exact numbered j .refl ⟨_, r, ready, answers, leads⟩
    | follow req next =>
        rw [comes] at turn
        cases turn with
        | followed ready answers leads made =>
            have same := ProxyRules.trail_of_prepare ready
            have room : req.trail.HasRoom := by
              rw [same]
              exact numbered j .refl ⟨_, _, ready, answers, Option.isSome_of_eq_some leads⟩
            have less := Limits.left_of_advance room (trail_of_hop made).2
            rw [same] at less
            obtain ⟨run, fetched, bounded⟩ :=
              ih _ (by omega) (numbered.of_onward ⟨req, comes⟩) rfl
            refine ⟨run.after req, ?_, bounded.after same room made⟩
            rw [Downloader.fetch_of_follow comes, fetched, Option.map_some]

end Settings

/-- **Fetching ends.** A downloader that settings describe, whatever its transport answers, sends
at most one request more than the settings leave hops to the first one, each hop uses up one of
them, and a further one is refused. All hops that it asks for are to have numbers. -/
theorem Downloader.exists_fetch_of_ofSettings {vars : List (String × String)} {d : Downloader}
    (built : Downloader.ofSettings s vars c = .ok d) (transport : Transport) (j : Journey)
    (numbered : s.Numbered d transport j) :
    ∃ run, d.fetch transport j = some run ∧ s.Bounded c transport j run := by
  obtain ⟨rules, rfl⟩ := Settings.exists_rules_of_ofSettings built
  exact Settings.exists_bounded numbered

/-- Settings that leave one hop. -/
def Settings.oneHop : Settings := { redirect := { maxHops := 1 } }

/-- The answer that a place is at the same place. -/
def backAgain : Response :=
  .elsewhere (.front "http" 1) (.front "http" 1)

/-- The request for that place after some hops. -/
def turning (hops : ℕ) : Request :=
  { Request.plain .get (.front "http" 1) with
    trail := ⟨.ofNat hops, if hops = 0 then none else some 0, List.replicate hops "http://[::1]/",
      List.replicate hops (.status 302)⟩
    priority := .clamp (2 * hops) }

/-- Where every answer leads back, the run ends with the hop that is too many. -/
theorem fetch_of_backAgain :
    ∃ d run, Downloader.ofSettings .oneHop [] default = .ok d ∧
      d.fetch (fun _ => .ok backAgain) (Journey.start (turning 0)) = some run ∧
      run.sent = [turning 0, turning 1] ∧
      run.result = .error (.tooManyHops ⟨"http://[::1]/", 2⟩) := by
  have built : Downloader.ofSettings .oneHop [] default =
      .ok (Settings.oneHop.downloader .empty default) := rfl
  have numbered : Settings.oneHop.Numbered (Settings.oneHop.downloader .empty default)
      (fun _ => .ok backAgain) (Journey.start (turning 0)) :=
    Settings.numbered_of_left (by decide +kernel)
  obtain ⟨run, fetched, bounded⟩ := Downloader.exists_fetch_of_ofSettings built
    (fun _ => .ok backAgain) (Journey.start (turning 0)) numbered
  have leads : ∀ j ∈ [Journey.start (turning 0), ⟨turning 1, [turning 0]⟩],
      Settings.oneHop.place? default ⟨j, backAgain⟩ =
        some (.status 302, .front "http" 1, .read) := by
    decide +kernel
  have ready (hops : Nat) : ProxyRules.empty.prepare (turning hops) = .ok (turning hops) := rfl
  have first : (Settings.oneHop.downloader .empty default).round (fun _ => .ok backAgain)
      (Journey.start (turning 0)) = .follow (turning 0) ⟨turning 1, [turning 0]⟩ :=
    Settings.round_of_place (ready 0) rfl (leads (.start (turning 0)) (.head _))
  have second : (Settings.oneHop.downloader .empty default).round (fun _ => .ok backAgain)
      ⟨turning 1, [turning 0]⟩ =
        .last ⟨[turning 1], .error (.tooManyHops ⟨"http://[::1]/", 2⟩)⟩ :=
    Settings.round_of_place (ready 1) rfl
      (leads ⟨turning 1, [turning 0]⟩ (.tail _ (.head _)))
  have whole : run.sent = [turning 0, turning 1] := by
    rw [Downloader.fetch_of_follow first, Downloader.fetch_of_last second] at fetched
    rw [← Option.some.inj fetched]
    rfl
  have last : run.sent[1]? = some (turning 1) := by
    rw [whole]
    rfl
  have onward : (Settings.oneHop.place? default ⟨⟨turning 1, (run.sent.take 1).reverse⟩,
      backAgain⟩).isSome := by
    rw [whole]
    exact Option.isSome_of_eq_some (leads _ (.tail _ (.head _)))
  obtain ⟨n, number, refused⟩ := bounded.refused (turning 1) backAgain last rfl onward
  obtain rfl : n = 2 := UInt32.toNat_inj.mp number
  exact ⟨_, run, built, fetched, whole, refused⟩

end Wayfarer
