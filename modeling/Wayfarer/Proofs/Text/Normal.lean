import Mathlib
import Wayfarer.Text.Normal

/-!
Characters that composition leaves alone.

* `RangeTable.exists_of_mem_read`: a row of a table comes from an entry of its text;
* `Canonical.combines_of_mem_pairs`: of ASCII characters only letters and three marks combine;
* `Normal.mem_reorderFrom`: ordering marks loses no character;
* `Normal.IsApart`: a character that stands by itself: it has no parts, is no mark and combines with
  no other one;
* `mem_nfc_of_isApart`: **such a character of a text is one of its composed form**;
* `nfc_eq_self`: an ASCII text is its own composed form.
-/

namespace Wayfarer

/-! ### The first of two characters that combine -/

/-- A row of a table comes from an entry of its text. -/
lemma RangeTable.exists_of_mem_read {α : Type} {payload : List Char → α} {rows : List String}
    {row : ℕ × α} (mem : row ∈ (RangeTable.read payload rows).rows) :
    ∃ line ∈ rows, ∃ entry ∈ splitAtEvery (· = ' ') line.toList,
      row.2 = payload (entry.dropWhile fun c => c.isDigit || c.isLower) := by
  let Made (value : α) : Prop :=
    ∃ entry ∈ rows.flatMap fun row => splitAtEvery (· = ' ') row.toList,
      value = payload (entry.dropWhile fun c => c.isDigit || c.isLower)
  have held : ∀ row ∈ (RangeTable.read payload rows).rows, Made row.2 := by
    rw [RangeTable.read]
    refine List.foldlRecOn
      (motive := fun state : ℕ × Array (ℕ × α) => ∀ row ∈ state.2, Made row.2) _ _ ?_ ?_
    · intro row mem
      cases Array.not_mem_empty row mem
    · rintro ⟨start, rows⟩ before entry inside row mem
      rcases Array.mem_push.mp mem with earlier | rfl
      · exact before row earlier
      · exact ⟨entry, inside, rfl⟩
  obtain ⟨entry, inside, value⟩ := held row mem
  obtain ⟨line, here, inside⟩ := List.mem_flatMap.mp inside
  exact ⟨line, here, entry, inside, value⟩

namespace Canonical

/-- What combines with a mark: a character beyond ASCII, a letter, or `<`, `=` or `>`. -/
def combines (n : ℕ) : Bool :=
  128 ≤ n || (Char.ofNat n).isAlpha || n ∈ [60, 61, 62]

/-- Whether the parts that an entry gives to a character that they make begin so. -/
def entryCombines (entry : List Char) : Bool :=
  let payload := entry.dropWhile fun c => c.isDigit || c.isLower
  payload.head? ≠ some 'C' || ((readNumbers (payload.drop 1)).head?.map combines).getD false

lemma entryCombines_of_all {cs : List Char}
    (all : (splitAtEvery (· = ' ') cs).all entryCombines = true) :
    ∀ entry ∈ splitAtEvery (· = ' ') (String.ofList cs).toList, entryCombines entry = true := by
  rw [String.toList_ofList]
  exact List.all_eq_true.mp all

set_option maxRecDepth 10000 in
/-- The parts of all characters begin so. -/
lemma entryCombines_of_mem_rows : ∀ line ∈ rows,
    ∀ entry ∈ splitAtEvery (· = ' ') line.toList, entryCombines entry = true := by
  unfold rows
  -- line by line, since a line is read fast only as a list of characters
  repeat refine List.forall_mem_cons.mpr ⟨entryCombines_of_all (by decide +kernel), ?_⟩
  exact List.forall_mem_nil _

/-- Of ASCII characters only letters and three marks combine with another character. -/
lemma combines_of_mem_pairs {a b c : ℕ} (mem : (a, b, c) ∈ pairs) : combines a = true := by
  obtain ⟨⟨start, row⟩, inside, made⟩ := List.mem_filterMap.mp mem
  obtain ⟨line, here, entry, there, value⟩ :=
    RangeTable.exists_of_mem_read (Array.mem_toList_iff.mp inside)
  have begins := entryCombines_of_mem_rows line here entry there
  dsimp only at value made
  rw [entryCombines] at begins
  split at made
  · next composes parts =>
      cases made
      rw [value] at composes parts
      dsimp only at composes parts begins
      rw [decide_eq_true_eq] at composes
      rw [parts, composes] at begins
      simpa using begins
  · cases made

end Canonical

namespace Normal

variable {c mark starter : Char} {cs marks pending : List Char}

/-! ### Characters that stand by themselves -/

lemma mem_insertMark : c ∈ insertMark mark marks ↔ c = mark ∨ c ∈ marks := by
  induction marks with
  | nil => simp [insertMark]
  | cons m marks ih =>
      rw [insertMark]
      split_ifs
      · simp
      · simp [ih, or_left_comm]

/-- Ordering marks loses no character. -/
lemma mem_reorderFrom : c ∈ reorderFrom pending cs ↔ c ∈ pending ∨ c ∈ cs := by
  induction cs generalizing pending with
  | nil => simp [reorderFrom]
  | cons d cs ih =>
      rw [reorderFrom]
      split_ifs
      · simp [ih]
      · simp [ih, mem_insertMark, or_assoc, or_left_comm]

/-- A character that stands by itself: it has no parts, is no mark and combines with no other
one. -/
structure IsApart (c : Char) : Prop where
  whole : Canonical.parts? c.toNat = none
  base : combiningClass c = 0
  front : ∀ n, Canonical.pair? c.toNat n = none
  behind : ∀ n, Canonical.pair? n c.toNat = none

/-- An ASCII character stands by itself if it is no letter and none of three marks. -/
lemma isApart_of_not_combines (ascii : c.toNat < 0x80)
    (single : Canonical.combines c.toNat = false) : IsApart c where
  whole := by rw [Canonical.parts?, if_pos (by omega)]
  base := by rw [combiningClass, if_pos (by omega)]
  behind n := by rw [Canonical.pair?, if_pos (by omega)]
  front n := by
    rw [Canonical.pair?]
    split_ifs
    · rfl
    · omega
    · omega
    · rw [Option.map_eq_none_iff, List.find?_eq_none]
      rintro ⟨a, b, d⟩ mem same
      obtain ⟨rfl, -⟩ := of_decide_eq_true same
      rw [Canonical.combines_of_mem_pairs mem] at single
      cases single

lemma mem_decompose (whole : Canonical.parts? c.toNat = none) (mem : c ∈ cs) :
    c ∈ decompose cs := by
  refine List.mem_flatMap.mpr ⟨c, mem, ?_⟩
  rw [partsOf, whole, List.map_singleton, Char.ofNat_toNat]
  exact List.mem_singleton_self c

/-- Such a character is neither replaced where others combine nor passed by. -/
lemma IsApart.mem_composeFrom (apart : IsApart c) (mem : c = starter ∨ c ∈ cs) :
    c ∈ composeFrom starter marks cs := by
  induction cs generalizing starter marks with
  | nil =>
      obtain rfl := mem.resolve_right List.not_mem_nil
      exact List.mem_cons_self
  | cons d cs ih =>
      rw [List.mem_cons] at mem
      rw [composeFrom.eq_def]
      dsimp only
      split
      · next n combines =>
          split_ifs at combines with blocked
          refine ih (.inr ?_)
          rcases mem with rfl | rfl | behind
          · cases (apart.front _).symm.trans combines
          · cases (apart.behind _).symm.trans combines
          · exact behind
      · split_ifs with base
        · rcases mem with rfl | here
          · exact List.mem_append_left _ List.mem_cons_self
          · exact List.mem_append_right _ (ih here)
        · rcases mem with here | rfl | behind
          · exact ih (.inl here)
          · exact absurd apart.base base
          · exact ih (.inr behind)

lemma IsApart.mem_compose (apart : IsApart c) (mem : c ∈ cs) : c ∈ compose cs := by
  rw [compose]
  dsimp only
  rw [← List.takeWhile_append_dropWhile (p := fun c => combiningClass c ≠ 0) (l := cs),
    List.mem_append] at mem
  rcases mem with leading | mem
  · have mark := List.mem_takeWhile_imp leading
    rw [apart.base] at mark
    cases mark
  · refine List.mem_append_right _ ?_
    split
    · next none =>
        rw [none] at mem
        cases mem
    · next starter rest split =>
        rw [split, List.mem_cons] at mem
        exact apart.mem_composeFrom mem

end Normal

/-- **A character that stands by itself** is one of the composed form. -/
theorem mem_nfc_of_isApart {c : Char} {cs : List Char} (apart : Normal.IsApart c) (mem : c ∈ cs) :
    c ∈ nfc cs := by
  refine apart.mem_compose ?_
  rw [Normal.reorder, Normal.mem_reorderFrom]
  exact .inr (Normal.mem_decompose apart.whole mem)

/-! ### ASCII texts -/

namespace Normal

variable {starter : Char} {cs : List Char}

lemma combiningClass_of_ascii {c : Char} (ascii : c.toNat < 0x80) : combiningClass c = 0 := by
  rw [combiningClass, if_pos (by omega)]

lemma decompose_of_ascii (ascii : ∀ c ∈ cs, c.toNat < 0x80) : decompose cs = cs := by
  have whole : ∀ c ∈ cs, (partsOf 4 c.toNat).map Char.ofNat = [c] := by
    intro c mem
    have low := ascii c mem
    rw [partsOf, Canonical.parts?, if_pos (by omega), List.map_singleton, Char.ofNat_toNat]
  rw [decompose, List.flatMap_congr whole, List.flatMap_singleton']

lemma reorder_of_ascii (ascii : ∀ c ∈ cs, c.toNat < 0x80) : reorder cs = cs := by
  rw [reorder]
  induction cs with
  | nil => rfl
  | cons c cs ih =>
      obtain ⟨first, rest⟩ := List.forall_mem_cons.mp ascii
      rw [reorderFrom, if_pos (combiningClass_of_ascii first), List.nil_append, ih rest]

/-- An ASCII character combines with none in front of it. -/
lemma composeFrom_of_ascii (ascii : ∀ c ∈ cs, c.toNat < 0x80) :
    composeFrom starter [] cs = starter :: cs := by
  induction cs generalizing starter with
  | nil => rfl
  | cons c cs ih =>
      obtain ⟨first, rest⟩ := List.forall_mem_cons.mp ascii
      have single : Canonical.pair? starter.toNat c.toNat = none := by
        rw [Canonical.pair?, if_pos (by omega)]
      rw [composeFrom]
      simp [single, combiningClass_of_ascii first, ih rest]

lemma compose_of_ascii (ascii : ∀ c ∈ cs, c.toNat < 0x80) : compose cs = cs := by
  cases cs with
  | nil => rfl
  | cons c cs =>
      obtain ⟨first, rest⟩ := List.forall_mem_cons.mp ascii
      simp [compose, combiningClass_of_ascii first, composeFrom_of_ascii rest]

end Normal

/-- An ASCII text is its own composed form. -/
theorem nfc_eq_self {cs : List Char} (ascii : ∀ c ∈ cs, c.toNat < 0x80) : nfc cs = cs := by
  rw [nfc, Normal.decompose_of_ascii ascii, Normal.reorder_of_ascii ascii,
    Normal.compose_of_ascii ascii]

end Wayfarer
