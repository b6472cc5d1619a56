import Wayfarer.Proofs.Hop.Allowance

/-!
How a chain grows by hops made one after another.

* `Trail.extend`: the trail after some hops, unless a limit refuses one of them;
* `Trail.grown`: a trail with hops written behind it;
* `Trail.extend_eq_grown`, `Trail.extend_eq_refused`: as many hops are made as are left, and the
  next one is refused;
* `Trail.Numbered`: all hops that are tried have numbers;
* `Trail.Consistent`: there are as many places and reasons as hops;
* `Trail.extend_take`: **the first hops of a list** are made if and only if so many are left, and
  what they leave behind.
-/

namespace Wayfarer

namespace Trail

variable {limits : Limits} {t after : Trail} {hop : String × Reason} {made : List (String × Reason)}

/-- The trail after some hops, where each of them starts and why. -/
def extend (limits : Limits) (t : Trail) (made : List (String × Reason)) :
    Except LimitExceeded Trail :=
  made.foldlM (fun t hop => t.advance hop.1 hop.2 limits) t

/-- A trail with hops written behind it. -/
def grown (limits : Limits) (t : Trail) (made : List (String × Reason)) : Trail where
  hops := .ofNat (t.hops.toNat + made.length)
  allowance :=
    if limits.countdown = true ∧ made ≠ [] then
      some (.ofNat ((t.allowance.getD limits.maxHops).toNat - made.length))
    else t.allowance
  urls := t.urls ++ made.map (·.1)
  reasons := t.reasons ++ made.map (·.2)

/-! ### One hop -/

lemma extend_cons (limits : Limits) (t : Trail) (hop : String × Reason)
    (made : List (String × Reason)) :
    t.extend limits (hop :: made) =
      (t.advance hop.1 hop.2 limits >>= fun next => next.extend limits made) := by
  rw [extend, List.foldlM_cons]
  rfl

/-- Where a hop is left, the first one is made. -/
lemma exists_advance (some_left : limits.left t ≠ 0) (hop : String × Reason) :
    ∃ next, t.advance hop.1 hop.2 limits = .ok next ∧ limits.left next + 1 = limits.left t := by
  have room := Limits.hasRoom_of_left some_left
  have free : ¬limits.Refuses t := by rwa [Limits.refuses_iff room, ← Limits.left_eq_zero_iff]
  have advances := advance_eq t hop.1 hop.2 limits
  rw [if_neg free] at advances
  exact ⟨_, advances, Limits.left_of_advance room advances⟩

lemma grown_nil (limits : Limits) (t : Trail) : t.grown limits [] = t := by
  simp [grown]

/-- A hop and further ones are written behind a trail one after another. -/
lemma grown_of_advance (room : t.HasRoom) (advances : t.advance hop.1 hop.2 limits = .ok after)
    (made : List (String × Reason)) : after.grown limits made = t.grown limits (hop :: made) := by
  obtain ⟨free, hops, allowance, urls, reasons⟩ := eq_of_advance advances
  have spent : (after.grown limits made).allowance = (t.grown limits (hop :: made)).allowance := by
    simp only [grown, allowance]
    cases counts : limits.countdown with
    | false => simp
    | true =>
        have less := toNat_pred_of_free counts free
        -- with the first hop the allowance is written down, whether it was before or not
        cases made with
        | nil => simp [← less]
        | cons next made => simp [less, Nat.sub_sub, Nat.add_comm]
  have counted : (t.hops + 1).toNat + made.length = t.hops.toNat + (hop :: made).length := by
    rw [toNat_succ room, List.length_cons]
    omega
  simp only [grown] at spent ⊢
  rw [spent, hops, urls, reasons, counted]
  simp

/-! ### Many hops -/

/-- As long as hops are left they are made. -/
lemma extend_eq_grown (within : made.length ≤ limits.left t) :
    t.extend limits made = .ok (t.grown limits made) := by
  induction made generalizing t with
  | nil =>
      rw [grown_nil]
      rfl
  | cons hop made ih =>
      rw [List.length_cons] at within
      have some_left : limits.left t ≠ 0 := by omega
      obtain ⟨next, advances, less⟩ := exists_advance some_left hop
      have enough : made.length ≤ limits.left next := by omega
      have rest : next.extend limits made = .ok (next.grown limits made) := ih enough
      rw [extend_cons, advances,
        ← grown_of_advance (Limits.hasRoom_of_left some_left) advances]
      exact rest

/-- The first hop beyond those that are left is refused, if it has a number. -/
lemma extend_eq_refused (room : t.hops.toNat + limits.left t + 1 < UInt32.size)
    (beyond : made[limits.left t]? = some hop) :
    t.extend limits made = .error ⟨hop.1, .ofNat (t.hops.toNat + limits.left t + 1)⟩ := by
  induction made generalizing t with
  | nil => simp at beyond
  | cons first made ih =>
      rw [extend_cons]
      by_cases exhausted : limits.left t = 0
      · rw [exhausted, List.getElem?_cons_zero] at beyond
        cases beyond
        rw [exhausted, Nat.add_zero] at room
        have refused : limits.Refuses t :=
          (Limits.refuses_iff room).mpr (Limits.left_eq_zero_iff.mp exhausted)
        rw [advance_eq, if_pos refused, exhausted, Nat.add_zero, ← toNat_succ room,
          UInt32.ofNat_toNat]
        rfl
      · obtain ⟨next, advances, less⟩ := exists_advance exhausted first
        obtain ⟨-, hops, -⟩ := eq_of_advance advances
        have same : next.hops.toNat + limits.left next = t.hops.toNat + limits.left t := by
          rw [hops, toNat_succ (Limits.hasRoom_of_left exhausted)]
          omega
        rw [← same] at room ⊢
        rw [← less, List.getElem?_cons_succ] at beyond
        rw [advances]
        exact ih room beyond

/-- The hops of a list that are tried have numbers: those that are made, and one that is refused. -/
def Numbered (limits : Limits) (t : Trail) (made : List (String × Reason)) : Prop :=
  t.hops.toNat + min made.length (limits.left t + 1) < UInt32.size

lemma Numbered.of_left_lt (numbered : t.Numbered limits made)
    (beyond : limits.left t < made.length) :
    t.hops.toNat + limits.left t + 1 < UInt32.size := by
  rw [Numbered] at numbered
  omega

lemma Numbered.take (numbered : t.Numbered limits made) (n : ℕ) :
    t.Numbered limits (made.take n) := by
  rw [Numbered] at numbered ⊢
  rw [List.length_take]
  omega

/-- Hops are made if and only if so many are left. -/
lemma exists_extend_iff (numbered : t.Numbered limits made) :
    (∃ after, t.extend limits made = .ok after) ↔ made.length ≤ limits.left t := by
  constructor
  · rintro ⟨after, grows⟩
    by_contra within
    have beyond : limits.left t < made.length := Nat.not_le.mp within
    have refused := extend_eq_refused (numbered.of_left_lt beyond) (List.getElem?_eq_getElem beyond)
    rw [grows] at refused
    cases refused
  · intro within
    exact ⟨_, extend_eq_grown within⟩

/-- What is refused is the first hop beyond those that are left. -/
lemma exists_of_refused {refused : LimitExceeded} (numbered : t.Numbered limits made)
    (fails : t.extend limits made = .error refused) :
    ∃ hop, made[limits.left t]? = some hop ∧
      refused = ⟨hop.1, .ofNat (t.hops.toNat + limits.left t + 1)⟩ ∧
      t.hops.toNat + limits.left t + 1 < UInt32.size := by
  have beyond : limits.left t < made.length := by
    by_contra within
    rw [extend_eq_grown (Nat.not_lt.mp within)] at fails
    cases fails
  have there := List.getElem?_eq_getElem beyond
  have room := numbered.of_left_lt beyond
  rw [extend_eq_refused room there] at fails
  exact ⟨_, there, (Except.error.inj fails).symm, room⟩

/-! ### The record as a whole -/

/-- Hops that are left have numbers. -/
lemma toNat_hops_grown (within : made.length ≤ limits.left t) :
    (t.grown limits made).hops.toNat = t.hops.toNat + made.length := by
  have small := Limits.add_left_lt limits t
  exact UInt32.toNat_ofNat_of_lt' (by omega)

/-- There are as many places and as many reasons as hops. -/
structure Consistent (t : Trail) : Prop where
  urls : t.urls.length = t.hops.toNat
  reasons : t.reasons.length = t.hops.toNat

lemma Consistent.grown (consistent : t.Consistent) (within : made.length ≤ limits.left t) :
    (t.grown limits made).Consistent where
  urls := by
    rw [toNat_hops_grown within, Trail.grown, List.length_append, List.length_map,
      consistent.urls]
  reasons := by
    rw [toNat_hops_grown within, Trail.grown, List.length_append, List.length_map,
      consistent.reasons]

/-- **The first hops of a list.** Let the hops that are tried have numbers. They are made if and
only if so many are left. Then they stand behind the trail as it was, which stays consistent if it
was, and each has used up one of the allowance where chains count down. If the next one is refused,
it is the one that is named, by where it starts and by its number, and the list as a whole ends
there. -/
theorem extend_take (limits : Limits) (t : Trail) {n : ℕ} (within : n ≤ made.length)
    (numbered : t.Numbered limits made) :
    ((∃ after, t.extend limits (made.take n) = .ok after) ↔ n = 0 ∨ n ≤ limits.left t) ∧
    ∀ after, t.extend limits (made.take n) = .ok after →
      after.hops.toNat = t.hops.toNat + n ∧
      after.urls = t.urls ++ (made.take n).map (·.1) ∧
      after.reasons = t.reasons ++ (made.take n).map (·.2) ∧
      after.allowance = (if limits.countdown = true ∧ n ≠ 0 then
        some (.ofNat ((t.allowance.getD limits.maxHops).toNat - n)) else t.allowance) ∧
      (t.Consistent → after.Consistent) ∧
      ∀ refused, t.extend limits (made.take (n + 1)) = .error refused →
        (∃ hop, made[n]? = some hop ∧ refused.url = hop.1 ∧
          refused.hops.toNat = t.hops.toNat + n + 1) ∧
        t.extend limits made = .error refused := by
  have length : (made.take n).length = n := List.length_take_of_le within
  have empty : made.take n = [] ↔ n = 0 := by rw [← List.length_eq_zero_iff, length]
  have success : (∃ after, t.extend limits (made.take n) = .ok after) ↔ n ≤ limits.left t := by
    rw [exists_extend_iff (numbered.take n), length]
  refine ⟨by rw [success]; omega, fun after grows => ?_⟩
  have enough : (made.take n).length ≤ limits.left t := by
    rw [length]
    exact success.mp ⟨after, grows⟩
  have whole : after = t.grown limits (made.take n) := by
    rw [extend_eq_grown enough] at grows
    exact (Except.ok.inj grows).symm
  refine ⟨?_, by rw [whole, grown], by rw [whole, grown], ?_, ?_, fun refused fails => ?_⟩
  · rw [whole, toNat_hops_grown enough, length]
  · rw [whole, grown, length]
    simp only [ne_eq, empty]
  · intro before
    rw [whole]
    exact before.grown enough
  · -- the hop that is refused is the one behind those that are left, and so many were made
    obtain ⟨hop, there, rfl, small⟩ := exists_of_refused (numbered.take (n + 1)) fails
    have last : limits.left t = n := by
      have beyond := (List.getElem?_eq_some_iff.mp there).1
      rw [List.length_take] at beyond
      omega
    have next : made[limits.left t]? = some hop := by
      rwa [List.getElem?_take_of_lt (by omega)] at there
    refine ⟨⟨hop, last ▸ next, rfl, ?_⟩, extend_eq_refused small next⟩
    rw [UInt32.toNat_ofNat_of_lt' small, last]

/-- A chain that has come one hop far, and that allows two more of the three that the limit does. -/
def underway : Trail :=
  ⟨1, some 2, ["http://a/"], [.status 302]⟩

/-- Three hops that are asked for next. -/
def onward : List (String × Reason) :=
  [("http://b/", .refresh), ("http://c/", .status 301), ("http://d/", .status 308)]

/-- Two of them are made, and the third is refused. -/
theorem two_of_three_made :
    2 ≤ onward.length ∧
    (∃ after, underway.extend ⟨4, true⟩ (onward.take 2) = .ok after ∧ after.hops = 3 ∧
      after.urls = ["http://a/", "http://b/", "http://c/"] ∧ after.allowance = some 0 ∧
      after.Consistent) ∧
    underway.extend ⟨4, true⟩ onward = .error ⟨"http://d/", 4⟩ := by
  have within : 2 ≤ onward.length := by decide
  have numbered : underway.Numbered ⟨4, true⟩ onward := by
    rw [Numbered]
    decide
  obtain ⟨made, record⟩ := extend_take ⟨4, true⟩ underway within numbered
  obtain ⟨after, grows⟩ := made.mpr (Or.inr (by decide))
  obtain ⟨hops, urls, -, allowance, consistent, refuses⟩ := record after grows
  refine ⟨within, ⟨after, grows, ?_, urls, allowance, consistent ⟨rfl, rfl⟩⟩, ?_⟩
  · exact UInt32.toNat_inj.mp hops
  · exact (refuses ⟨"http://d/", 4⟩ rfl).2

end Trail

end Wayfarer
