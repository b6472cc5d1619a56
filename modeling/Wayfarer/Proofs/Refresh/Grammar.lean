import Wayfarer.Proofs.Number.Decimal
import Wayfarer.Proofs.Text.Ends
import Wayfarer.Refresh.Content

/-!
The grammar of refresh directives.

* `Refresh.Keyed`: a text is the key `url`, a sign of equality and a target;
* `Refresh.Directive`: how a text splits into a delay, a separator and a target;
* `Refresh.IsBare`: a target without blanks, then quotes, then blanks at its ends;
* `Refresh.parse?_of_directive`, `Refresh.exists_directive_of_parse?`: texts of the grammar are
  read, and no others;
* `Refresh.parse?_eq_some_iff`: **the grammar is what is read**, delays being rounded correctly.
-/

namespace Wayfarer.Refresh

/-! ### The grammar -/

/-- A text is the key `url` in letters of either case, a sign of equality and a target, with blanks
before the sign only. -/
def Keyed (rest target : List Char) : Prop :=
  ∃ key gap, rest = key ++ gap ++ '=' :: target ∧ key.map Char.toLower = ['u', 'r', 'l'] ∧
    ∀ c ∈ gap, isBlank c = true

/-- A separator and blanks, or nothing at all. -/
inductive IsMark : List Char → Prop
  | none : IsMark []
  | one {c : Char} {blanks : List Char} (separator : isSeparator c = true)
      (blank : ∀ b ∈ blanks, isBlank b = true) : IsMark (c :: blanks)

/-- How a text splits into a delay, blanks, a separator and the rest, in which a target stands. -/
structure Directive (cs : List Char) where
  delay : List Char
  gap : List Char
  mark : List Char
  rest : List Char
  text : List Char
  split : cs = delay ++ (gap ++ (mark ++ rest))
  pointed : IsPointed delay
  longest : ∀ c ∈ (gap ++ (mark ++ rest)).head?, isDelayChar c = false
  blank : ∀ c ∈ gap, isBlank c = true
  marked : IsMark mark
  /-- The blanks behind the separator are no part of the rest. -/
  firm : ∀ c ∈ rest.head?, isBlank c = false
  /-- Behind a separator the key may be missing. -/
  named : Keyed rest text ∨ mark ≠ [] ∧ text = rest ∧ ∀ target, ¬Keyed rest target

/-- A target is what is left of a text without blanks, then quotes, then blanks at its ends. -/
def IsBare (text target : List Char) : Prop :=
  ∃ inner quoted, Leaves isBlank text quoted ∧ Leaves isQuote quoted inner ∧
    Leaves isBlank inner target

variable {cs gap mark rest target text : List Char} {content : String} {c : Char}

lemma bare_eq_iff : bare text = target ↔ IsBare text target := by
  rw [bare, trim_eq_stripped, trim_eq_stripped, trim_eq_stripped, stripped_eq_iff]
  constructor
  · exact fun left => ⟨_, _, leaves_stripped _ _, leaves_stripped _ _, left⟩
  · rintro ⟨inner, quoted, outer, quotes, left⟩
    rwa [stripped_eq_iff.mpr outer, stripped_eq_iff.mpr quotes]

/-! ### The key -/

lemma isBlank_equals : isBlank '=' = false := by decide

lemma afterKey?_eq_some_iff : afterKey? rest = some target ↔ Keyed rest target := by
  constructor
  · intro reads
    rw [afterKey?] at reads
    split_ifs at reads with key
    have sign : (rest.drop 3).takeWhile isBlank ++ '=' :: target = rest.drop 3 := by
      split at reads
      case h_1 behind found =>
        rw [← Option.some.inj reads, ← found, trimStart, List.takeWhile_append_dropWhile]
      case h_2 => cases reads
    refine ⟨rest.take 3, (rest.drop 3).takeWhile isBlank, ?_, key, fun c => List.mem_takeWhile_imp⟩
    rw [List.append_assoc, sign, List.take_append_drop]
  · rintro ⟨key, gap, rfl, letters, blank⟩
    have three : key.length = 3 := by
      rw [← List.length_map Char.toLower, letters]
      rfl
    have front : (key ++ gap ++ '=' :: target).take 3 = key := by
      rw [List.append_assoc, List.take_left' three]
    have behind : (key ++ gap ++ '=' :: target).drop 3 = gap ++ '=' :: target := by
      rw [List.append_assoc, List.drop_left' three]
    have sign : trimStart isBlank (gap ++ '=' :: target) = '=' :: target :=
      dropWhile_append_of_head blank fun c here => by
        obtain rfl : '=' = c := by simpa using here
        exact isBlank_equals
    simp only [afterKey?, front, behind, letters, sign, if_true]

/-- A text with a key does not start with a separator. -/
lemma Keyed.not_isSeparator_head (keyed : Keyed rest target) :
    ∀ c ∈ rest.head?, isSeparator c = false := by
  obtain ⟨key, gap, rfl, letters, -⟩ := keyed
  cases key with
  | nil => cases letters
  | cons k key =>
      intro c here
      obtain rfl : k = c := by simpa using here
      have letter : k.toLower = 'u' := by
        rw [List.map_cons] at letters
        exact (List.cons.inj letters).1
      rw [isSeparator, Bool.or_eq_false_iff, decide_eq_false_iff_not, decide_eq_false_iff_not]
      constructor <;> rintro rfl <;> exact absurd letter (by decide)

/-! ### The separator -/

lemma not_isBlank_of_isSeparator (separator : isSeparator c = true) : isBlank c = false := by
  rw [isSeparator, Bool.or_eq_true, decide_eq_true_eq, decide_eq_true_eq] at separator
  rcases separator with rfl | rfl <;> decide

/-- Blanks, a separator and a rest are told apart. Without a separator the rest must not look like
one. -/
lemma afterSeparator_of_mark (blank : ∀ c ∈ gap, isBlank c = true) (marked : IsMark mark)
    (firm : ∀ c ∈ rest.head?, isBlank c = false)
    (other : mark = [] → ∀ c ∈ rest.head?, isSeparator c = false) :
    afterSeparator (gap ++ (mark ++ rest)) = (!mark.isEmpty, rest) := by
  cases marked with
  | none =>
      rw [afterSeparator, trimStart, List.nil_append, dropWhile_append_of_head blank firm]
      cases rest with
      | nil => rfl
      | cons c rest => simp [other rfl c rfl]
  | @one c blanks separator behind =>
      have solid := not_isBlank_of_isSeparator separator
      have start : trimStart isBlank (gap ++ (c :: blanks ++ rest)) = c :: (blanks ++ rest) :=
        dropWhile_append_of_head blank fun d here => by
          obtain rfl : c = d := by simpa using here
          exact solid
      rw [afterSeparator, start]
      simp only [separator, if_true, trimStart, dropWhile_append_of_head behind firm,
        List.isEmpty_cons, Bool.not_false]

/-- Every text splits into blanks, a separator and a rest. -/
lemma exists_of_afterSeparator (cs : List Char) : ∃ gap mark rest,
    cs = gap ++ (mark ++ rest) ∧ (∀ c ∈ gap, isBlank c = true) ∧ IsMark mark ∧
      (∀ c ∈ rest.head?, isBlank c = false) ∧ afterSeparator cs = (!mark.isEmpty, rest) := by
  have split : cs.takeWhile isBlank ++ cs.dropWhile isBlank = cs :=
    List.takeWhile_append_dropWhile
  have blank : ∀ c ∈ cs.takeWhile isBlank, isBlank c = true := fun c => List.mem_takeWhile_imp
  have firm := head_dropWhile isBlank cs
  -- what comes first behind the blanks is the separator or belongs to the rest
  cases behind : cs.dropWhile isBlank with
  | nil =>
      rw [behind] at split
      refine ⟨_, [], [], split.symm, blank, .none, nofun, ?_⟩
      rw [afterSeparator, trimStart, behind]
      rfl
  | cons c after =>
      rw [behind] at split firm
      by_cases separator : isSeparator c = true
      · have rejoined : c :: after =
            (c :: after.takeWhile isBlank) ++ after.dropWhile isBlank := by
          rw [List.cons_append, List.takeWhile_append_dropWhile]
        refine ⟨_, c :: after.takeWhile isBlank, after.dropWhile isBlank, ?_, blank,
          .one separator fun b => List.mem_takeWhile_imp, head_dropWhile isBlank after, ?_⟩
        · rw [← rejoined, split]
        · rw [afterSeparator, trimStart, behind]
          simp [separator, trimStart]
      · refine ⟨_, [], c :: after, split.symm, blank, .none, firm, ?_⟩
        rw [afterSeparator, trimStart, behind]
        simp [separator]

/-! ### What is read -/

lemma targetText?_of_directive (d : Directive cs) :
    targetText? (d.gap ++ (d.mark ++ d.rest)) = some d.text := by
  rcases d.named with keyed | ⟨separated, whole, keyless⟩
  · rw [targetText?, afterSeparator_of_mark d.blank d.marked d.firm fun _ =>
      keyed.not_isSeparator_head]
    simp only [afterKey?_eq_some_iff.mpr keyed]
  · have none : afterKey? d.rest = none :=
      Option.eq_none_iff_forall_ne_some.mpr fun target reads =>
        keyless target (afterKey?_eq_some_iff.mp reads)
    rw [targetText?, afterSeparator_of_mark d.blank d.marked d.firm fun empty =>
      absurd empty separated]
    simp [none, separated, whole]

/-- The texts of the grammar are read. -/
lemma parse?_of_directive {target : String} (ends : Leaves isBlank content.toList cs)
    (d : Directive cs) (left : IsBare d.text target.toList) (filled : target ≠ "") :
    ∃ delay : Binary64, delay.Approximates (pointValue d.delay) ∧
      parse? content = some ⟨delay, target⟩ := by
  have chars : ∀ c ∈ d.delay, isDelayChar c = true := fun c mem => by
    rw [isDelayChar, Bool.or_eq_true, decide_eq_true_eq]
    exact d.pointed.chars c mem
  have front : cs.takeWhile isDelayChar = d.delay :=
    (congrArg _ d.split).trans (takeWhile_append_of_head chars d.longest)
  have behind : cs.dropWhile isDelayChar = d.gap ++ (d.mark ++ d.rest) :=
    (congrArg _ d.split).trans (dropWhile_append_of_head chars d.longest)
  obtain ⟨delay, reads, positive, size⟩ := Decimal.exists_ofPoint? d.pointed
  refine ⟨delay.toBinary64, size ▸ Decimal.approximates_toBinary64 positive, ?_⟩
  rw [parse?, trim_eq_stripped, stripped_eq_iff.mpr ends]
  simp [front, behind, reads, targetText?_of_directive d, bare_eq_iff.mpr left, filled]

/-- No other texts are read. -/
lemma exists_directive_of_parse? {r : Refresh} (reads : parse? content = some r) :
    ∃ d : Directive (stripped isBlank content.toList), IsBare d.text r.target.toList ∧
      r.target ≠ "" := by
  rw [parse?, trim_eq_stripped] at reads
  generalize stripped isBlank content.toList = cs at reads ⊢
  simp only [Option.bind_eq_bind, Option.bind_eq_some_iff, Option.ite_none_left_eq_some,
    List.isEmpty_iff, Option.some.injEq] at reads
  obtain ⟨delay, number, text, chosen, filled, rfl⟩ := reads
  obtain ⟨gap, mark, rest, split, blank, marked, firm, separator⟩ :=
    exists_of_afterSeparator (cs.dropWhile isDelayChar)
  have named : Keyed rest text ∨ mark ≠ [] ∧ text = rest ∧ ∀ target, ¬Keyed rest target := by
    rw [targetText?, separator] at chosen
    cases keyed : afterKey? rest with
    | some target =>
        simp only [keyed, Option.some.injEq] at chosen
        exact Or.inl (chosen ▸ afterKey?_eq_some_iff.mp keyed)
    | none =>
        simp only [keyed, Option.ite_none_right_eq_some, Option.some.injEq] at chosen
        obtain ⟨separated, whole⟩ := chosen
        refine Or.inr ⟨by simpa using separated, whole.symm, fun target has => ?_⟩
        cases keyed.symm.trans (afterKey?_eq_some_iff.mpr has)
  have whole : cs = cs.takeWhile isDelayChar ++ (gap ++ (mark ++ rest)) := by
    rw [← split, List.takeWhile_append_dropWhile]
  have longest : ∀ c ∈ (gap ++ (mark ++ rest)).head?, isDelayChar c = false := by
    rw [← split]
    exact head_dropWhile isDelayChar cs
  refine ⟨⟨_, gap, mark, rest, text, whole, Decimal.isPointed_of_ofPoint? number, longest, blank,
    marked, firm, named⟩, ?_, ?_⟩
  · rw [String.toList_ofList, ← bare_eq_iff]
  · intro empty
    exact filled (by simpa using congrArg String.toList empty)

/-- **The grammar is what is read.** A text is a directive exactly when it splits as one between
blanks, and then it says to go to the bare target after the delay, rounded correctly. -/
theorem parse?_eq_some_iff {r : Refresh} :
    parse? content = some r ↔ ∃ cs, Leaves isBlank content.toList cs ∧ ∃ d : Directive cs,
      r.delay.Approximates (pointValue d.delay) ∧ IsBare d.text r.target.toList ∧
        r.target ≠ "" := by
  constructor
  · intro reads
    obtain ⟨d, left, filled⟩ := exists_directive_of_parse? reads
    have ends := leaves_stripped isBlank content.toList
    obtain ⟨delay, near, again⟩ := parse?_of_directive ends d left filled
    have same : r.delay = delay :=
      congrArg Refresh.delay (Option.some.inj (reads.symm.trans again))
    exact ⟨_, ends, d, same ▸ near, left, filled⟩
  · rintro ⟨cs, ends, d, near, left, filled⟩
    obtain ⟨delay, near', reads⟩ := parse?_of_directive ends d left filled
    rw [reads, near'.unique near]

-- without a sign of equality the letters of the key are part of the target
example : (parse? "0;urls").map Refresh.target = some "urls" := by decide +kernel

-- without a separator there is no target but behind a key
example : parse? "5 next" = none := by decide +kernel

end Wayfarer.Refresh
