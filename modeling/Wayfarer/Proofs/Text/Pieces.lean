import Mathlib
import Wayfarer.Proofs.Text.Ends

/-!
Texts in pieces.

* `mapM_eq_some_iff`: a function that may fail has a value at each element of a list;
* `exists_mem_splitAtEvery`: a character that separates nothing is one of a piece, and
  `intercalate_splitAtEvery`: the pieces with the separator between them make up the text;
* `append_of_splitAtFirst`: a text is what stands before a part, the part, and what follows;
* `not_hasInfix_of_not_mem`: a text does not have a part with a character that it lacks;
* `readDigits_toDigits`: **a number is read back from its digits**.
-/

namespace Wayfarer

variable {α β : Type} {p : Char → Bool} {c : Char} {cs sep : List Char}

/-! ### Functions that may fail -/

/-- A function that may fail has a value at each element of a list. -/
lemma mapM_eq_some_iff {f : α → Option β} {l : List α} {l' : List β} :
    l.mapM f = some l' ↔ List.Forall₂ (fun a b => f a = some b) l l' := by
  induction l generalizing l' with
  | nil => simp [eq_comm]
  | cons a l ih =>
      rw [List.mapM_cons]
      cases here : f a with
      | none =>
          refine ⟨nofun, fun all => ?_⟩
          cases all with
          | cons first _ => cases here.symm.trans first
      | some b =>
          cases l' with
          | nil => cases l.mapM f <;> simp
          | cons b' l' =>
              rw [List.forall₂_cons, here, ← ih]
              cases l.mapM f <;> simp

lemma exists_of_forall₂_left {R : α → β → Prop} {l : List α} {l' : List β}
    (all : List.Forall₂ R l l') {a : α} (mem : a ∈ l) : ∃ b ∈ l', R a b := by
  induction all with
  | nil => cases mem
  | cons here _ ih =>
      rcases List.mem_cons.mp mem with rfl | mem
      · exact ⟨_, List.mem_cons_self, here⟩
      · obtain ⟨b, inside, related⟩ := ih mem
        exact ⟨b, List.mem_cons_of_mem _ inside, related⟩

lemma exists_of_forall₂_right {R : α → β → Prop} {l : List α} {l' : List β}
    (all : List.Forall₂ R l l') {b : β} (mem : b ∈ l') : ∃ a ∈ l, R a b :=
  exists_of_forall₂_left (R := flip R) all.flip mem

/-! ### Pieces between separators -/

/-- A character that separates nothing is one of a piece. -/
lemma exists_mem_splitAtEvery (plain : p c = false) (mem : c ∈ cs) :
    ∃ piece ∈ splitAtEvery p cs, c ∈ piece := by
  induction cs with
  | nil => cases mem
  | cons d cs ih =>
      cases sep : p d with
      | true =>
          have other : c ≠ d := by
            rintro rfl
            cases plain.symm.trans sep
          obtain ⟨piece, inside, here⟩ := ih ((List.mem_cons.mp mem).resolve_left other)
          rw [splitAtEvery_cons_of_pos sep]
          exact ⟨piece, List.mem_cons_of_mem _ inside, here⟩
      | false =>
          obtain ⟨first, others, split, whole⟩ := splitAtEvery_cons_of_neg sep cs
          rw [whole]
          rcases List.mem_cons.mp mem with rfl | mem
          · exact ⟨c :: first, List.mem_cons_self, List.mem_cons_self⟩
          · obtain ⟨piece, inside, here⟩ := ih mem
            rw [split, List.mem_cons] at inside
            rcases inside with rfl | inside
            · exact ⟨d :: piece, List.mem_cons_self, List.mem_cons_of_mem _ here⟩
            · exact ⟨piece, List.mem_cons_of_mem _ inside, here⟩

lemma mem_of_mem_splitAtEvery {piece : List Char} (inside : piece ∈ splitAtEvery p cs)
    (mem : c ∈ piece) : c ∈ cs := by
  induction cs generalizing piece with
  | nil =>
      obtain rfl := List.mem_singleton.mp inside
      exact mem
  | cons d cs ih =>
      cases sep : p d with
      | true =>
          rw [splitAtEvery_cons_of_pos sep, List.mem_cons] at inside
          rcases inside with rfl | inside
          · cases mem
          · exact List.mem_cons_of_mem _ (ih inside mem)
      | false =>
          obtain ⟨first, others, split, whole⟩ := splitAtEvery_cons_of_neg sep cs
          rw [whole, List.mem_cons] at inside
          rcases inside with rfl | inside
          · rcases List.mem_cons.mp mem with rfl | mem
            · exact List.mem_cons_self
            · exact List.mem_cons_of_mem _ (ih (split ▸ List.mem_cons_self) mem)
          · exact List.mem_cons_of_mem _ (ih (split ▸ List.mem_cons_of_mem _ inside) mem)

/-- The pieces of a text with the separator between them make up the text. -/
lemma intercalate_splitAtEvery (c : Char) (cs : List Char) :
    [c].intercalate (splitAtEvery (· = c) cs) = cs := by
  induction cs with
  | nil => rfl
  | cons d cs ih =>
      by_cases sep : d = c
      · have filled := splitAtEvery_ne_nil (· = c) cs
        rw [splitAtEvery_cons_of_pos (decide_eq_true sep), List.intercalate_cons_of_ne_nil filled,
          ih, sep, List.nil_append, List.singleton_append]
      · obtain ⟨piece, pieces, split, whole⟩ :=
          splitAtEvery_cons_of_neg (p := (· = c)) (decide_eq_false sep) cs
        rw [split] at ih
        rw [whole, ← ih]
        cases pieces <;> simp

/-! ### Parts -/

/-- A text is what stands before a part, the part, and what follows. -/
lemma append_of_splitAtFirst {before after : List Char}
    (found : splitAtFirst sep cs = some (before, after)) : cs = before ++ sep ++ after := by
  induction cs generalizing before with
  | nil =>
      rw [splitAtFirst] at found
      split_ifs at found with empty
      cases found
      simp [List.isEmpty_iff.mp empty]
  | cons c cs ih =>
      rw [splitAtFirst] at found
      split at found
      · next rest here =>
          cases found
          exact (List.isPrefixOf?_eq_some_iff_append_eq.mp here).symm
      · obtain ⟨⟨front, back⟩, split, same⟩ := Option.map_eq_some_iff.mp found
        cases same
        rw [ih split]
        rfl

/-- A text does not have a part with a character that it lacks. -/
lemma not_hasInfix_of_not_mem (part : c ∈ sep) (absent : c ∉ cs) : hasInfix sep cs = false := by
  rw [hasInfix, Option.isSome_eq_false_iff, Option.isNone_iff_eq_none]
  by_contra found
  obtain ⟨⟨before, after⟩, split⟩ := Option.ne_none_iff_exists'.mp found
  rw [append_of_splitAtFirst split] at absent
  exact absent (List.mem_append_left _ (List.mem_append_right _ part))

/-! ### Digits -/

/-- **A number is read back from its digits**, if `value` knows them. -/
lemma readDigits_toDigits {base : ℕ} (several : 1 < base) {value : Char → ℕ}
    (digits : ∀ d < base, value d.digitChar = d) (n : ℕ) :
    readDigits base ((base.toDigits n).map value) = n := by
  induction n using Nat.strong_induction_on with
  | _ n ih =>
      rw [Nat.toDigits_eq_if several]
      split_ifs with small
      · simp [readDigits, digits n small]
      · have front := ih (n / base) (Nat.div_lt_self (by omega) several)
        have last := digits (n % base) (Nat.mod_lt n (by omega))
        rw [readDigits] at front
        rw [readDigits, List.map_append, List.foldl_append, front, List.map_singleton, last,
          List.foldl_cons, List.foldl_nil, Nat.div_add_mod']

end Wayfarer
