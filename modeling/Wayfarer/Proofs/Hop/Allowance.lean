import Mathlib.Tactic
import Wayfarer.Hop.Trail

/-!
How far a chain may still go.

* `Trail.HasRoom`: there is a number for one more hop;
* `Limits.Refuses`: limits refuse a hop to a chain, and `Trail.advance_eq`: a trail advances unless
  they do;
* `Limits.left`: the hops that limits leave to a chain;
* `Limits.Exhausted`: they leave none, which `Limits.left_eq_zero_iff` shows to be the same;
* `Limits.refuses_iff`: limits refuse a hop where none is left, as long as there is room;
* `Trail.eq_of_advance`: what a hop adds to the trail;
* `Limits.left_of_advance`: **a hop uses up exactly one** of the hops that were left;
* `Limits.Contains`: limits end a chain before its numbers do.
-/

namespace Wayfarer

variable {t after : Trail} {limits : Limits} {url : String} {reason : Reason}

/-! ### Numbers of hops -/

/-- There is a number for one more hop. -/
def Trail.HasRoom (t : Trail) : Prop :=
  t.hops.toNat + 1 < UInt32.size

lemma Trail.toNat_succ (room : t.HasRoom) : (t.hops + 1).toNat = t.hops.toNat + 1 := by
  rw [UInt32.toNat_add, UInt32.toNat_one]
  exact Nat.mod_eq_of_lt room

lemma Trail.toNat_succ_le (t : Trail) : (t.hops + 1).toNat ≤ t.hops.toNat + 1 := by
  rw [UInt32.toNat_add, UInt32.toNat_one]
  exact Nat.mod_le _ _

/-! ### Hops that are left -/

namespace Limits

/-- The hops that limits leave to a chain: those up to the limit and, where chains count down, no
more than the chain itself allows. -/
def left (limits : Limits) (t : Trail) : ℕ :=
  let most := limits.maxHops.toNat - t.hops.toNat
  if limits.countdown then min most (t.allowance.getD limits.maxHops).toNat else most

/-- Limits leave no hop to a chain: one more would be beyond the limit, or the chain counts down and
allows none. -/
def Exhausted (limits : Limits) (t : Trail) : Prop :=
  limits.maxHops.toNat < t.hops.toNat + 1 ∨
    limits.countdown = true ∧ t.allowance.getD limits.maxHops = 0

/-- Limits refuse a hop to a chain: its number is beyond the limit, or the chain counts down and
allows none. -/
def Refuses (limits : Limits) (t : Trail) : Prop :=
  limits.maxHops < t.hops + 1 ∨ limits.countdown = true ∧ t.allowance.getD limits.maxHops = 0

instance (limits : Limits) (t : Trail) : Decidable (limits.Refuses t) :=
  inferInstanceAs (Decidable (_ ∨ _))

lemma left_eq_zero_iff : limits.left t = 0 ↔ limits.Exhausted t := by
  rw [left, Exhausted, ← UInt32.toNat_inj, UInt32.toNat_zero]
  cases limits.countdown with
  | false => simp only [Bool.false_eq_true, if_false, false_and, or_false]; omega
  | true => simp only [if_true, true_and]; omega

/-- Hops that are left have numbers. -/
lemma add_left_lt (limits : Limits) (t : Trail) :
    t.hops.toNat + limits.left t < UInt32.size := by
  have least := t.hops.toNat_lt_size
  have most := limits.maxHops.toNat_lt_size
  have le : limits.left t ≤ limits.maxHops.toNat - t.hops.toNat := by
    rw [left]
    split <;> omega
  omega

/-- Where hops are left there is room for the next one. -/
lemma hasRoom_of_left (some_left : limits.left t ≠ 0) : t.HasRoom := by
  rw [ne_eq, left_eq_zero_iff, Exhausted, not_or] at some_left
  have below := limits.maxHops.toNat_lt_size
  rw [Trail.HasRoom]
  omega

/-- A hop is refused only where none is left. -/
lemma exhausted_of_refuses (refuses : limits.Refuses t) : limits.Exhausted t := by
  refine refuses.imp_left fun beyond => ?_
  exact (UInt32.lt_iff_toNat_lt.mp beyond).trans_le t.toNat_succ_le

/-- As long as there is room, a hop is refused where none is left. -/
lemma refuses_iff (room : t.HasRoom) : limits.Refuses t ↔ limits.Exhausted t := by
  rw [Refuses, Exhausted, UInt32.lt_iff_toNat_lt, Trail.toNat_succ room]

end Limits

/-! ### One hop -/

namespace Trail

/-- The allowance after one more hop, unless the chain counts down and allows none. -/
lemma spend_eq (t : Trail) (limits : Limits) :
    t.spend limits =
      if limits.countdown = true ∧ t.allowance.getD limits.maxHops = 0 then none
      else some (if limits.countdown then some (t.allowance.getD limits.maxHops - 1)
        else t.allowance) := by
  rw [spend]
  cases limits.countdown with
  | false => simp
  | true => simp

/-- A trail advances unless the hop is refused. -/
lemma advance_eq (t : Trail) (url : String) (reason : Reason) (limits : Limits) :
    t.advance url reason limits =
      if limits.Refuses t then .error ⟨url, t.hops + 1⟩
      else .ok ⟨t.hops + 1,
        if limits.countdown then some (t.allowance.getD limits.maxHops - 1) else t.allowance,
        t.urls ++ [url], t.reasons ++ [reason]⟩ := by
  rw [advance, spend_eq]
  by_cases far : limits.maxHops < t.hops + 1
  · have refused : limits.Refuses t := .inl far
    rw [if_pos refused]
    exact if_pos far
  · by_cases spent : limits.countdown = true ∧ t.allowance.getD limits.maxHops = 0
    · have refused : limits.Refuses t := .inr spent
      rw [if_pos refused, if_pos spent]
      exact if_neg far
    · have free : ¬limits.Refuses t := fun refused => refused.elim far spent
      rw [if_neg free, if_neg spent]
      exact if_neg far

/-- Only a trail to which a hop is not refused advances, and the hop is recorded at its end. -/
lemma eq_of_advance (h : t.advance url reason limits = .ok after) :
    ¬limits.Refuses t ∧ after.hops = t.hops + 1 ∧
      after.allowance =
        (if limits.countdown then some (t.allowance.getD limits.maxHops - 1) else t.allowance) ∧
      after.urls = t.urls ++ [url] ∧ after.reasons = t.reasons ++ [reason] := by
  rw [advance_eq] at h
  by_cases refused : limits.Refuses t
  · rw [if_pos refused] at h
    cases h
  · rw [if_neg refused] at h
    cases h
    exact ⟨refused, rfl, rfl, rfl, rfl⟩

/-- Where a chain counts down and a hop is not refused, its allowance can be made less. -/
lemma toNat_pred_of_free (counts : limits.countdown = true) (free : ¬limits.Refuses t) :
    (t.allowance.getD limits.maxHops - 1).toNat = (t.allowance.getD limits.maxHops).toNat - 1 := by
  have some_left : t.allowance.getD limits.maxHops ≠ 0 := fun spent =>
    free (.inr ⟨counts, spent⟩)
  have more : 1 ≤ t.allowance.getD limits.maxHops := by
    rw [ne_eq, ← UInt32.toNat_inj, UInt32.toNat_zero] at some_left
    rw [UInt32.le_iff_toNat_le, UInt32.toNat_one]
    omega
  rw [UInt32.toNat_sub_of_le _ _ more, UInt32.toNat_one]

end Trail

/-- A hop for which there is room uses up one of the hops that were left. -/
lemma Limits.left_of_advance (room : t.HasRoom) (h : t.advance url reason limits = .ok after) :
    limits.left after + 1 = limits.left t := by
  obtain ⟨free, hops, allowance, _, _⟩ := Trail.eq_of_advance h
  have some_left : limits.left t ≠ 0 := by rwa [ne_eq, left_eq_zero_iff, ← refuses_iff room]
  have number := Trail.toNat_succ room
  rw [left] at some_left
  rw [left, left, hops, allowance, number]
  cases counts : limits.countdown with
  | false =>
      simp only [counts, Bool.false_eq_true, if_false] at some_left ⊢
      omega
  | true =>
      have less := Trail.toNat_pred_of_free counts free
      simp only [counts, if_true, Option.getD_some, less] at some_left ⊢
      omega

/-- Where there is room, the hops that were made and those that are left stay the same together. -/
lemma Limits.add_left_of_advance (room : t.HasRoom)
    (h : t.advance url reason limits = .ok after) :
    after.hops.toNat + limits.left after = t.hops.toNat + limits.left t := by
  have less := left_of_advance room h
  obtain ⟨-, hops, -⟩ := Trail.eq_of_advance h
  rw [hops, Trail.toNat_succ room]
  omega

/-! ### Limits that end before the numbers do -/

namespace Limits

/-- Limits end a chain before its numbers do: the greatest number is beyond the limit, or the chain
counts down and allows no more hops than there are numbers. -/
def Contains (limits : Limits) (t : Trail) : Prop :=
  limits.maxHops.toNat + 1 < UInt32.size ∧ t.HasRoom ∨
    limits.countdown = true ∧
      t.hops.toNat + (t.allowance.getD limits.maxHops).toNat < UInt32.size

lemma contains_of_zero (fresh : t.hops = 0)
    (ends : limits.countdown = true ∨ limits.maxHops.toNat + 1 < UInt32.size) :
    limits.Contains t := by
  rcases ends with counts | small
  · refine .inr ⟨counts, ?_⟩
    rw [fresh, UInt32.toNat_zero, Nat.zero_add]
    exact UInt32.toNat_lt_size _
  · refine .inl ⟨small, ?_⟩
    rw [Trail.HasRoom, fresh]
    decide

/-- Then a hop that is not refused has a number. -/
lemma Contains.hasRoom (contains : limits.Contains t) (free : ¬limits.Refuses t) : t.HasRoom := by
  rcases contains with ⟨-, room⟩ | ⟨counts, small⟩
  · exact room
  · have some_left : (t.allowance.getD limits.maxHops).toNat ≠ 0 := fun spent =>
      free (.inr ⟨counts, UInt32.toNat_inj.mp spent⟩)
    rw [Trail.HasRoom]
    omega

/-- And so it remains. -/
lemma Contains.of_advance (contains : limits.Contains t)
    (h : t.advance url reason limits = .ok after) : limits.Contains after := by
  obtain ⟨free, hops, allowance, -⟩ := Trail.eq_of_advance h
  have number := Trail.toNat_succ (contains.hasRoom free)
  rcases contains with ⟨small, -⟩ | ⟨counts, small⟩
  · have within : ¬limits.maxHops < t.hops + 1 := fun beyond => free (.inl beyond)
    rw [UInt32.lt_iff_toNat_lt, number] at within
    refine .inl ⟨small, ?_⟩
    rw [Trail.HasRoom, hops, number]
    omega
  · have less := Trail.toNat_pred_of_free counts free
    have some_left : (t.allowance.getD limits.maxHops).toNat ≠ 0 := fun spent =>
      free (.inr ⟨counts, UInt32.toNat_inj.mp spent⟩)
    refine .inr ⟨counts, ?_⟩
    rw [hops, number, allowance, counts, if_pos rfl, Option.getD_some, less]
    omega

end Limits

end Wayfarer
