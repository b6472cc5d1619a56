import Wayfarer.Number.Width
import Wayfarer.Proofs.Hop.Course

/-!
How soon the requests of a chain are due.

* `Priority.after`: a priority with the same amount added for each of some hops, brought into the
  range once;
* `Priority.raise_after`: bringing it into the range at every hop comes to the same;
* `Journey.Hops`: a journey continued by a number of hops that add the same amount;
* `Raised`: what the hops so far have made of the priorities;
* `Journey.priority_of_hops`: **every request of a chain has the priority that the number of hops
  before it says**.
-/

namespace Wayfarer

/-! ### One amount, many times -/

namespace Priority

variable {p : Priority} {d m n : ℤ} {i k : ℕ}

/-- A priority with the amount `d` added `k` times, as far as the range allows. -/
def after (p : Priority) (d : ℤ) (k : ℕ) : Priority :=
  clamp (p.value + k * d)

lemma value_after (p : Priority) (d : ℤ) (k : ℕ) :
    (p.after d k).value = max Width.least32 (min (p.value + k * d) Width.most32) :=
  rfl

lemma eq_of_value {q : Priority} (same : p.value = q.value) : p = q := by
  cases p
  cases q
  cases same
  rfl

lemma value_clamp (n : ℤ) : (clamp n).value = max (-2147483648) (min n 2147483647) := rfl

lemma after_zero (p : Priority) (d : ℤ) : p.after d 0 = p := by
  have least := p.least
  have most := p.most
  apply eq_of_value
  rw [after, value_clamp, Nat.cast_zero, zero_mul, add_zero]
  omega

/-- What an amount has gone beyond one end of the range is not missed as long as the amount keeps
its sign. -/
lemma raise_clamp (upward : 0 ≤ d → -2147483648 ≤ n) (downward : d ≤ 0 → n ≤ 2147483647) :
    (clamp n).raise d = clamp (n + d) := by
  apply eq_of_value
  rw [raise, value_clamp, value_clamp, value_clamp]
  omega

/-- Raising once more is adding the amount once more, before the range is thought of. -/
lemma raise_after (p : Priority) (d : ℤ) (k : ℕ) : (p.after d k).raise d = p.after d (k + 1) := by
  have least := p.least
  have most := p.most
  have total : p.value + k * d + d = p.value + (k + 1 : ℕ) * d := by
    push_cast
    ring
  rw [after, after, ← total]
  refine raise_clamp (fun up => ?_) fun down => ?_
  · have gained : 0 ≤ (k : ℤ) * d := Int.mul_nonneg (Int.natCast_nonneg k) up
    omega
  · have lost : (k : ℤ) * d ≤ 0 := Int.mul_nonpos_of_nonneg_of_nonpos (Int.natCast_nonneg k) down
    omega

lemma value_clamp_mono (le : m ≤ n) : (clamp m).value ≤ (clamp n).value := by
  rw [value_clamp, value_clamp]
  omega

lemma value_after_mono (up : 0 ≤ d) (before : i ≤ k) :
    (p.after d i).value ≤ (p.after d k).value := by
  have gained : (i : ℤ) * d ≤ k * d := Int.mul_le_mul_of_nonneg_right (by omega) up
  exact value_clamp_mono (by omega)

lemma value_after_anti (down : d ≤ 0) (before : i ≤ k) :
    (p.after d k).value ≤ (p.after d i).value := by
  have lost : (k : ℤ) * d ≤ i * d := Int.mul_le_mul_of_nonpos_right (by omega) down
  exact value_clamp_mono (by omega)

end Priority

/-! ### Hops that add the same amount -/

variable {rules : ProxyRules} {s : RedirectSettings} {d : ℤ} {k : ℕ} {req : Request}
variable {first j next : Journey}

/-- A journey continued by `k` hops of either kind that add `d` to the priority, its requests made
ready in between under any rules. -/
inductive Journey.Hops (d : ℤ) : ℕ → Journey → Journey → Prop
  | none (j : Journey) : Hops d 0 j j
  | prepare {rules : ProxyRules} {k : ℕ} {first j : Journey} {req : Request}
      (hops : Hops d k first j) (ready : rules.prepare j.request = .ok req) :
      Hops d k first { j with request := req }
  | hop {s : RedirectSettings} {k : ℕ} {first j next : Journey} (hops : Hops d k first j)
      (adjusts : s.priorityAdjust = d) (continues : j.Continues s next) :
      Hops d (k + 1) first next

/-- What `k` hops have made of the priorities of a journey since its part `first`. -/
structure Raised (d : ℤ) (k : ℕ) (first j : Journey) : Prop where
  /-- There is one more request in the past for each hop. -/
  length : j.past.length = first.past.length + k
  /-- The priorities of these requests, the earliest first. -/
  before : (j.past.reverse.drop first.past.length).map (·.priority) =
    (List.range k).map (first.request.priority.after d)
  /-- The priority of the latest request. -/
  here : j.request.priority = first.request.priority.after d k

lemma raised_none (d : ℤ) (j : Journey) : Raised d 0 j j where
  length := rfl
  before := by
    rw [← List.length_reverse, List.drop_length]
    rfl
  here := (j.request.priority.after_zero d).symm

/-- Making a request ready leaves its priority alone. -/
lemma Raised.prepare (raised : Raised d k first j) (ready : rules.prepare j.request = .ok req) :
    Raised d k first { j with request := req } := by
  obtain ⟨headers, proxy, rfl, -, -⟩ := ProxyRules.exists_frame_of_prepare ready
  exact ⟨raised.length, raised.before, raised.here⟩

/-- The priorities of all requests since the first one, the latest included. -/
lemma Raised.priorities (raised : Raised d k first j) :
    (j.requests.drop first.past.length).map (·.priority) =
      (List.range (k + 1)).map (first.request.priority.after d) := by
  have enough : first.past.length ≤ j.past.reverse.length := by
    rw [List.length_reverse, raised.length]
    exact Nat.le_add_right _ _
  rw [Journey.requests, List.drop_append_of_le_length enough, List.map_append, raised.before,
    List.range_succ, List.map_append, List.map_singleton, List.map_singleton, raised.here]

/-- A hop puts the latest request into the past and adds the amount once more. -/
lemma Raised.hop (raised : Raised d k first j) (adjusts : s.priorityAdjust = d)
    (continues : j.Continues s next) : Raised d (k + 1) first next := by
  have past := continues.exists_follow.1
  refine ⟨?_, ?_, ?_⟩
  · rw [past, List.length_cons, raised.length, Nat.add_assoc]
  · rw [past, List.reverse_cons]
    exact raised.priorities
  · rw [continues.priority_eq, raised.here, adjusts, Priority.raise_after]

namespace Journey

lemma Hops.raised (hops : Hops d k first j) : Raised d k first j := by
  induction hops with
  | none j => exact raised_none d j
  | prepare _ ready ih => exact ih.prepare ready
  | hop _ adjusts continues ih => exact ih.hop adjusts continues

/-- **The priority is that of the first request and the amounts of all hops, brought into the range
once.** After `k` hops that add `d` each, whatever their reasons, the latest request has the
priority that integers without bounds would give, or the end of the range that lies next to it. So
has each request before, for the hops that led to it, and the priorities of the chain go only
upward or only downward, as the sign of `d` says. -/
theorem priority_of_hops (hops : Hops d k first j) :
    j.past.length = first.past.length + k ∧
    j.request.priority.value =
      max Width.least32 (min (first.request.priority.value + k * d) Width.most32) ∧
    (j.requests.drop first.past.length).map (·.priority.value) =
      (List.range (k + 1)).map (fun i : ℕ =>
        max Width.least32 (min (first.request.priority.value + i * d) Width.most32)) ∧
    (0 ≤ d → ((j.requests.drop first.past.length).map (·.priority.value)).Pairwise (· ≤ ·)) ∧
    (d ≤ 0 → ((j.requests.drop first.past.length).map (·.priority.value)).Pairwise (· ≥ ·)) := by
  have raised := hops.raised
  have values : (j.requests.drop first.past.length).map (·.priority.value) =
      (List.range (k + 1)).map fun i : ℕ => (first.request.priority.after d i).value := by
    have all := congrArg (List.map (·.value)) raised.priorities
    rwa [List.map_map, List.map_map] at all
  refine ⟨raised.length, ?_, values, fun up => ?_, fun down => ?_⟩
  · rw [raised.here, Priority.value_after]
  · rw [values, List.pairwise_map]
    exact List.pairwise_lt_range.imp fun before => Priority.value_after_mono up before.le
  · rw [values, List.pairwise_map]
    exact List.pairwise_lt_range.imp fun before => Priority.value_after_anti down before.le

end Journey

/-- A request that is almost as urgent as can be. -/
def Request.urgent : Request where
  __ := Request.plain .get (.front "http" 1)
  priority := .clamp 2147483644

/-- A document without a header, and a directive in it that leads to another host. -/
def Response.directing (url : Url) : Response where
  status := .ok
  url
  headers := .empty
  body := utf8 "<meta http-equiv=refresh content='0;url=http://[::2]/'>"

/-- A redirect, a refresh directive and a redirect: the second of them reaches the end of the range,
and the third one stays there. -/
theorem Journey.priority_at_most :
    ∃ j, Hops 2 3 (Journey.start .urgent) j ∧
      j.request.trail.reasons = [.status 302, .refresh, .status 302] ∧
      j.request.priority.value = 2147483647 ∧
      j.requests.map (·.priority.value) = [2147483644, 2147483646, 2147483647, 2147483647] ∧
      (j.requests.map (·.priority.value)).Pairwise (· ≤ ·) := by
  have ready : (ProxyRules.one "http" []).prepare .urgent = .ok _ := rfl
  have prepared : Hops 2 0 (Journey.start .urgent) _ := .prepare (.none _) ready
  have redirected := prepared.hop (s := {}) rfl
    (continues_elsewhere (.front "http" 1) (by decide +kernel) rfl)
  have refreshed := redirected.hop (s := {}) rfl
    (.of_refresh (t := {}) (r := Response.directing (.front "http" 1))
      (show _ = some (.front "http" 2) by decide +kernel) rfl)
  have hops := refreshed.hop (s := {}) rfl
    (continues_elsewhere (.front "https" 2) (by decide +kernel) rfl)
  obtain ⟨-, value, values, upward, -⟩ := priority_of_hops hops
  exact ⟨_, hops, rfl, value, values, upward (by decide)⟩

end Wayfarer
