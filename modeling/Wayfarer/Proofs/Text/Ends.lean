import Mathlib
import Wayfarer.Text.Letters

/-!
Lists without the elements of a class at their ends.

* `stripped`: such a list; `trim` is the case of texts;
* `Firm`: neither the first nor the last element is of the class;
* `exists_stripped`, `stripped_append`: what is left is firm, and nothing else between elements of
  the class is;
* `stripped_stripped`: a smaller class may be stripped first;
* `stripped_eq_iff`: the same as `Leaves`, a description of what is left;
* `stripped_around`, `map_stripped_splitAtEvery`: elements of the class around a list change neither
  what is left of it nor what is left of its pieces.
-/

namespace Wayfarer

variable {α β : Type} {p q : α → Bool} {l front mid back : List α}

/-- A list without the elements of the class `p` at either end. -/
def stripped (p : α → Bool) (l : List α) : List α :=
  (l.dropWhile p).rdropWhile p

lemma trim_eq_stripped (p : Char → Bool) (cs : List Char) : trim p cs = stripped p cs :=
  rfl

/-- Neither the first nor the last element of a list is of the class `p`. -/
structure Firm (p : α → Bool) (l : List α) : Prop where
  head : ∀ a ∈ l.head?, p a = false
  last : ∀ a ∈ l.getLast?, p a = false

instance (p : α → Bool) (l : List α) : Decidable (Firm p l) :=
  decidable_of_iff ((∀ a ∈ l.head?, p a = false) ∧ ∀ a ∈ l.getLast?, p a = false)
    ⟨fun firm => ⟨firm.1, firm.2⟩, fun firm => ⟨firm.head, firm.last⟩⟩

/-! ### Runs at one end -/

lemma head_dropWhile (p : α → Bool) (l : List α) : ∀ a ∈ (l.dropWhile p).head?, p a = false := by
  intro a mem
  have outside := List.head?_dropWhile_not p l
  rw [Option.mem_def.mp mem] at outside
  simpa using outside

/-- Nothing is dropped just when the last element is not of the class. -/
lemma rdropWhile_eq_self_iff_getLast? :
    l.rdropWhile p = l ↔ ∀ a ∈ l.getLast?, p a = false := by
  rw [List.rdropWhile_eq_self_iff]
  constructor
  · intro solid a last
    have filled : l ≠ [] := fun empty => by simp [empty] at last
    obtain rfl : l.getLast filled = a := by
      rw [List.getLast?_eq_some_getLast filled] at last
      exact Option.some.inj last
    exact Bool.eq_false_iff.mpr (solid filled)
  · intro solid filled
    exact Bool.eq_false_iff.mp (solid _ (List.getLast?_eq_some_getLast filled))

lemma rdropWhile_cons {a : α} (solid : p a = false) (l : List α) :
    (a :: l).rdropWhile p = a :: l.rdropWhile p := by
  have alone : [a].dropWhile p = [a] := List.dropWhile_cons_of_neg (by simp [solid])
  rw [List.rdropWhile, List.reverse_cons, List.dropWhile_append, alone]
  split_ifs with none
  · rw [List.rdropWhile, List.isEmpty_iff.mp none]
    rfl
  · rw [List.reverse_append, List.reverse_singleton]
    rfl

lemma rdropWhile_append_of_pos (inside : ∀ a ∈ back, p a = true) (l : List α) :
    (l ++ back).rdropWhile p = l.rdropWhile p := by
  rw [List.rdropWhile, List.reverse_append, List.dropWhile_append_of_pos]
  · rfl
  · exact fun a mem => inside a (List.mem_reverse.mp mem)

lemma stripped_of_head (solid : ∀ a ∈ l.head?, p a = false) : stripped p l = l.rdropWhile p := by
  cases l with
  | nil => rfl
  | cons a l => rw [stripped, List.dropWhile_cons_of_neg (by simp [solid a rfl])]

/-! ### What is left -/

/-- A firm list is what is left of itself between elements of the class. -/
lemma stripped_append (before : ∀ a ∈ front, p a = true) (behind : ∀ a ∈ back, p a = true)
    (firm : Firm p mid) : stripped p (front ++ mid ++ back) = mid := by
  rw [stripped, List.append_assoc, List.dropWhile_append_of_pos before]
  cases mid with
  | nil =>
      rw [List.nil_append, List.dropWhile_eq_nil_iff.mpr behind]
      rfl
  | cons a mid =>
      have solid : ∀ b ∈ (a :: mid ++ back).head?, p b = false := firm.head
      calc stripped p (a :: mid ++ back) = (a :: mid ++ back).rdropWhile p :=
            stripped_of_head solid
        _ = (a :: mid).rdropWhile p := rdropWhile_append_of_pos behind _
        _ = a :: mid := rdropWhile_eq_self_iff_getLast?.mpr firm.last

lemma stripped_of_firm (firm : Firm p l) : stripped p l = l := by
  have alone : stripped p ([] ++ l ++ []) = l := stripped_append nofun nofun firm
  rwa [List.nil_append, List.append_nil] at alone

/-- What is left is firm, and the rest is of the class. -/
lemma exists_stripped (p : α → Bool) (l : List α) :
    ∃ front back, l = front ++ stripped p l ++ back ∧ (∀ a ∈ front, p a = true) ∧
      (∀ a ∈ back, p a = true) ∧ Firm p (stripped p l) := by
  refine ⟨l.takeWhile p, (l.dropWhile p).rtakeWhile p, ?_, fun a => List.mem_takeWhile_imp,
    fun a => List.mem_rtakeWhile_imp, ?_, ?_⟩
  · rw [stripped, List.append_assoc, List.rdropWhile_append_rtakeWhile,
      List.takeWhile_append_dropWhile]
  · intro a mem
    obtain ⟨rest, whole⟩ := List.rdropWhile_prefix p (l.dropWhile p)
    have first : (l.dropWhile p).head? = some a := by
      rw [stripped] at mem
      rw [← whole, List.head?_append, Option.mem_def.mp mem]
      rfl
    exact head_dropWhile p l a first
  · intro a mem
    have last : ((l.dropWhile p).reverse.dropWhile p).head? = some a := by
      rw [← List.getLast?_reverse]
      exact mem
    exact head_dropWhile p _ a last

/-- Elements of the class around a list do not change what is left of it. -/
lemma stripped_around (before : ∀ a ∈ front, p a = true) (behind : ∀ a ∈ back, p a = true)
    (l : List α) : stripped p (front ++ l ++ back) = stripped p l := by
  obtain ⟨more, further, whole, before', behind', firm⟩ := exists_stripped p l
  have split : front ++ l ++ back = (front ++ more) ++ stripped p l ++ (further ++ back) := by
    conv_lhs => rw [whole]
    simp only [List.append_assoc]
  rw [split]
  exact stripped_append (List.forall_mem_append.mpr ⟨before, before'⟩)
    (List.forall_mem_append.mpr ⟨behind', behind⟩) firm

/-- A smaller class may be stripped first. -/
lemma stripped_stripped (smaller : ∀ a, q a = true → p a = true) (l : List α) :
    stripped p (stripped q l) = stripped p l := by
  obtain ⟨front, back, whole, before, behind, -⟩ := exists_stripped q l
  obtain ⟨more, further, inner, before', behind', firm⟩ := exists_stripped p (stripped q l)
  have split : l = (front ++ more) ++ stripped p (stripped q l) ++ (further ++ back) := by
    conv_lhs => rw [whole, inner]
    simp only [List.append_assoc]
  conv_rhs => rw [split]
  refine (stripped_append ?_ ?_ firm).symm
  · exact List.forall_mem_append.mpr ⟨fun a mem => smaller a (before a mem), before'⟩
  · exact List.forall_mem_append.mpr ⟨behind', fun a mem => smaller a (behind a mem)⟩

lemma stripped_map (f : β → α) (l : List β) :
    stripped p (l.map f) = (stripped (p ∘ f) l).map f := by
  rw [stripped, List.dropWhile_map, List.rdropWhile, ← List.map_reverse, List.dropWhile_map,
    ← List.map_reverse]
  rfl

/-- A list is elements of the class `p` around a list with none at its ends. -/
structure Leaves (p : α → Bool) (l mid : List α) : Prop where
  around : ∃ front back, l = front ++ mid ++ back ∧ (∀ a ∈ front, p a = true) ∧
    ∀ a ∈ back, p a = true
  firm : Firm p mid

lemma leaves_stripped (p : α → Bool) (l : List α) : Leaves p l (stripped p l) := by
  obtain ⟨front, back, whole, before, behind, firm⟩ := exists_stripped p l
  exact ⟨⟨front, back, whole, before, behind⟩, firm⟩

lemma stripped_eq_iff : stripped p l = mid ↔ Leaves p l mid := by
  constructor
  · rintro rfl
    exact leaves_stripped p l
  · rintro ⟨⟨front, back, rfl, before, behind⟩, firm⟩
    exact stripped_append before behind firm

/-! ### What a run is followed by -/

lemma takeWhile_append_of_head (inside : ∀ a ∈ front, p a = true)
    (outside : ∀ a ∈ back.head?, p a = false) : (front ++ back).takeWhile p = front := by
  rw [List.takeWhile_append_of_pos inside]
  cases back with
  | nil => rw [List.takeWhile_nil, List.append_nil]
  | cons a back =>
      have other : ¬p a = true := by simp [outside a rfl]
      rw [List.takeWhile_cons_of_neg other, List.append_nil]

lemma dropWhile_append_of_head (inside : ∀ a ∈ front, p a = true)
    (outside : ∀ a ∈ back.head?, p a = false) : (front ++ back).dropWhile p = back := by
  rw [List.dropWhile_append_of_pos inside]
  cases back with
  | nil => rfl
  | cons a back => exact List.dropWhile_cons_of_neg (by simp [outside a rfl])

/-! ### Pieces between separators -/

lemma splitAtEvery_cons_of_pos {p : Char → Bool} {c : Char} (sep : p c = true) (cs : List Char) :
    splitAtEvery p (c :: cs) = [] :: splitAtEvery p cs := by
  rw [splitAtEvery, if_pos sep]

lemma splitAtEvery_ne_nil (p : Char → Bool) (cs : List Char) : splitAtEvery p cs ≠ [] := by
  cases cs with
  | nil => simp [splitAtEvery]
  | cons d cs =>
      rw [splitAtEvery]
      split_ifs
      · simp
      · split <;> simp

lemma splitAtEvery_cons_of_neg {p : Char → Bool} {c : Char} (plain : p c = false) (cs : List Char) :
    ∃ piece pieces, splitAtEvery p cs = piece :: pieces ∧
      splitAtEvery p (c :: cs) = (c :: piece) :: pieces := by
  obtain ⟨piece, pieces, here⟩ := List.exists_cons_of_ne_nil (splitAtEvery_ne_nil p cs)
  refine ⟨piece, pieces, here, ?_⟩
  rw [splitAtEvery, plain, if_neg Bool.false_ne_true, here]

/-- A text without separators is one piece. -/
lemma splitAtEvery_eq_singleton {p : Char → Bool} {cs : List Char}
    (plain : ∀ c ∈ cs, p c = false) : splitAtEvery p cs = [cs] := by
  induction cs with
  | nil => rfl
  | cons c cs ih =>
      obtain ⟨here, behind⟩ := List.forall_mem_cons.mp plain
      obtain ⟨piece, pieces, rest, whole⟩ := splitAtEvery_cons_of_neg here cs
      obtain ⟨rfl, rfl⟩ := List.cons.inj (rest.symm.trans (ih behind))
      exact whole

/-- Characters behind a text that are no separators only lengthen its last piece. -/
lemma forall₂_splitAtEvery_append {p q : Char → Bool} {back : List Char}
    (apart : ∀ c, q c = true → p c = false) (behind : ∀ c ∈ back, q c = true) (cs : List Char) :
    List.Forall₂ (fun long piece => ∃ tail, long = piece ++ tail ∧ ∀ c ∈ tail, q c = true)
      (splitAtEvery p (cs ++ back)) (splitAtEvery p cs) := by
  induction cs with
  | nil =>
      rw [List.nil_append, splitAtEvery_eq_singleton fun c mem => apart c (behind c mem)]
      exact .cons ⟨back, rfl, behind⟩ .nil
  | cons c cs ih =>
      rw [List.cons_append]
      cases sep : p c with
      | true =>
          rw [splitAtEvery_cons_of_pos sep, splitAtEvery_cons_of_pos sep]
          exact .cons ⟨[], rfl, nofun⟩ ih
      | false =>
          obtain ⟨long, longs, here, whole⟩ := splitAtEvery_cons_of_neg sep (cs ++ back)
          obtain ⟨piece, pieces, here', whole'⟩ := splitAtEvery_cons_of_neg sep cs
          rw [here, here', List.forall₂_cons] at ih
          obtain ⟨⟨tail, rfl, blank⟩, others⟩ := ih
          rw [whole, whole']
          exact .cons ⟨tail, rfl, blank⟩ others

/-- Characters around a text that are no separators do not change what is left of its pieces. -/
lemma map_stripped_splitAtEvery {p q : Char → Bool} {front back : List Char}
    (apart : ∀ c, q c = true → p c = false) (before : ∀ c ∈ front, q c = true)
    (behind : ∀ c ∈ back, q c = true) (cs : List Char) :
    (splitAtEvery p (front ++ cs ++ back)).map (stripped q) =
      (splitAtEvery p cs).map (stripped q) := by
  induction front with
  | nil =>
      rw [List.nil_append, ← List.forall₂_eq_eq_eq, List.forall₂_map_left_iff,
        List.forall₂_map_right_iff]
      refine (forall₂_splitAtEvery_append apart behind cs).imp ?_
      rintro long piece ⟨tail, rfl, blank⟩
      exact stripped_around (List.forall_mem_nil _) blank piece
  | cons c front ih =>
      obtain ⟨here, others⟩ := List.forall_mem_cons.mp before
      obtain ⟨piece, pieces, inner, whole⟩ :=
        splitAtEvery_cons_of_neg (apart c here) (front ++ cs ++ back)
      have first : stripped q ([c] ++ piece ++ []) = stripped q piece :=
        stripped_around (List.forall_mem_singleton.mpr here) (List.forall_mem_nil _) piece
      rw [List.append_nil, List.singleton_append] at first
      rw [List.cons_append, List.cons_append, whole, ← ih others, inner, List.map_cons,
        List.map_cons, first]
end Wayfarer
