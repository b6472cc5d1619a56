import Mathlib
import Wayfarer.Text.Base64
import Wayfarer.Text.Percent

/-!
Texts of visible ASCII characters.

* `AllVisible`: such a text; letters, digits, numbers and escapes are such texts, and so are their
  compositions;
* `Utf8.ofNat_mem_of_mem_encode`: a byte below 128 is a character of the text;
* `trim_eq_self`, `trimBlanks_of_allVisible`: such a text has no blanks at its ends;
* `hasInfix_append`: a text has the parts of which it is made.
-/

namespace Wayfarer

open Base64 (Visible)

variable {c : Char} {cs ds : List Char}

/-- All characters of a text are visible ones of ASCII. -/
def AllVisible (cs : List Char) : Prop :=
  ∀ c ∈ cs, Visible c

instance : DecidablePred AllVisible :=
  fun cs => List.decidableBAll Visible cs

/-! ### Compositions -/

@[simp] lemma allVisible_nil : AllVisible [] :=
  nofun

@[simp] lemma allVisible_cons : AllVisible (c :: cs) ↔ Visible c ∧ AllVisible cs :=
  List.forall_mem_cons

@[simp] lemma allVisible_append : AllVisible (cs ++ ds) ↔ AllVisible cs ∧ AllVisible ds :=
  List.forall_mem_append

/-- What holds of the separator and of each part holds of a text that is joined from them. -/
lemma forall_mem_intercalate {P : Char → Prop} {parts : List (List Char)}
    (separator : ∀ c ∈ ds, P c) (each : ∀ part ∈ parts, ∀ c ∈ part, P c) :
    ∀ c ∈ ds.intercalate parts, P c := by
  induction parts with
  | nil => simp
  | cons part parts ih =>
      obtain ⟨first, others⟩ := List.forall_mem_cons.mp each
      cases parts with
      | nil => simpa using first
      | cons next parts =>
          rw [List.intercalate_cons_cons, List.forall_mem_append, List.forall_mem_append]
          exact ⟨⟨first, separator⟩, ih others⟩

/-! ### Letters and digits -/

lemma visible_of_isAlphanum (h : c.isAlphanum = true) : Visible c := by
  have letters : 'A'.val.toNat = 65 ∧ 'Z'.val.toNat = 90 ∧ 'a'.val.toNat = 97 ∧
      'z'.val.toNat = 122 ∧ '0'.val.toNat = 48 ∧ '9'.val.toNat = 57 := by decide
  have value : c.toNat = c.val.toNat := rfl
  simp only [Char.isAlphanum, Char.isAlpha, Char.isUpper, Char.isLower, Char.isDigit,
    Bool.or_eq_true, Bool.and_eq_true, decide_eq_true_eq, ge_iff_le, UInt32.le_iff_toNat_le] at h
  rw [Visible, value]
  omega

lemma visible_toLower (visible : Visible c) : Visible c.toLower := by
  have all : ∀ n < 127, Visible (Char.ofNat n) → Visible (Char.ofNat n).toLower := by
    decide +kernel
  rw [← Char.ofNat_toNat c] at visible ⊢
  exact all c.toNat (by simpa using visible.2) visible

lemma visible_digitChar {n : ℕ} (small : n < 16) : Visible n.digitChar := by
  have digits : ∀ n < 16, Visible n.digitChar := by decide
  exact digits n small

/-- What holds of the digits of a base holds of all that a number is written with. -/
lemma forall_mem_toDigits {P : Char → Prop} {base : ℕ} (several : 1 < base)
    (digits : ∀ d < base, P d.digitChar) (n : ℕ) : ∀ c ∈ base.toDigits n, P c := by
  induction n using Nat.strong_induction_on with
  | _ n ih =>
      rw [Nat.toDigits_eq_if several]
      split_ifs with small
      · simpa using digits n small
      · have front := ih (n / base) (Nat.div_lt_self (by omega) several)
        have last := digits (n % base) (Nat.mod_lt n (by omega))
        rw [List.forall_mem_append, List.forall_mem_singleton]
        exact ⟨front, last⟩

lemma forall_mem_toString {P : Char → Prop} (digits : ∀ d < 10, P d.digitChar) (n : ℕ) :
    ∀ c ∈ (toString n).toList, P c := by
  rw [Nat.toString_eq_ofList_toDigits, String.toList_ofList]
  exact forall_mem_toDigits (by decide) digits n

lemma allVisible_toString (n : ℕ) : AllVisible (toString n).toList :=
  forall_mem_toString (fun _ small => visible_digitChar (small.trans (by decide))) n

/-! ### Escapes -/

lemma Utf8.not_ofNat_lt {n : ℕ} (low : 0x80 ≤ n) (high : n < 256) : ¬UInt8.ofNat n < 0x80 := by
  rw [UInt8.lt_iff_toNat_lt, UInt8.toNat_ofNat', Nat.mod_eq_of_lt high]
  exact Nat.not_lt.mpr low

/-- A byte below 128 in the encoding of a character is the character. -/
lemma Utf8.eq_of_mem_encodeChar {b : UInt8} (mem : b ∈ String.utf8EncodeChar c)
    (ascii : b < 0x80) : Char.ofNat b.toNat = c := by
  rw [String.utf8EncodeChar] at mem
  split_ifs at mem with one two three
  · obtain rfl := List.mem_singleton.mp mem
    have small : c.toNat < 256 := Nat.lt_of_le_of_lt one (by decide)
    change Char.ofNat (UInt8.ofNat c.toNat).toNat = c
    rw [UInt8.toNat_ofNat', Nat.mod_eq_of_lt small, Char.ofNat_toNat]
  · simp only [List.mem_cons, List.not_mem_nil, or_false] at mem
    rcases mem with rfl | rfl <;> exact absurd ascii (not_ofNat_lt (by omega) (by omega))
  · simp only [List.mem_cons, List.not_mem_nil, or_false] at mem
    rcases mem with rfl | rfl | rfl <;> exact absurd ascii (not_ofNat_lt (by omega) (by omega))
  · simp only [List.mem_cons, List.not_mem_nil, or_false] at mem
    rcases mem with rfl | rfl | rfl | rfl <;>
      exact absurd ascii (not_ofNat_lt (by omega) (by omega))

/-- A byte below 128 in the encoding of a text is a character of it. -/
lemma Utf8.ofNat_mem_of_mem_encode {b : UInt8} (mem : b ∈ Utf8.encode cs) (ascii : b < 0x80) :
    Char.ofNat b.toNat ∈ cs := by
  obtain ⟨c, inside, here⟩ := List.mem_flatMap.mp mem
  rwa [Utf8.eq_of_mem_encodeChar here ascii]

/-- What holds of a percent sign and of the digits of escapes, and of a byte where it is written as
it stands, holds of all characters with which a byte is written. -/
lemma forall_mem_encodeByte {P : Char → Prop} {p : UInt8 → Bool} {b : UInt8} (percent : P '%')
    (digits : ∀ n < 16, P (hexDigit n)) (plain : b < 0x80 → p b = false → P (Char.ofNat b.toNat)) :
    ∀ c ∈ Percent.encodeByte p b, P c := by
  have small : b.toNat < 256 := b.toNat_lt
  have high := digits (b.toNat / 16) (by omega)
  have low := digits (b.toNat % 16) (by omega)
  rw [Percent.encodeByte]
  split_ifs with escapes
  · simpa [Percent.escape] using ⟨percent, high, low⟩
  · rw [Bool.or_eq_true, not_or, decide_eq_true_eq, Bool.not_eq_true] at escapes
    simpa using plain (UInt8.not_le.mp escapes.1) escapes.2

/-! ### Ends and parts -/

lemma not_isBlank_of_visible (visible : Visible c) : isBlank c = false := by
  obtain ⟨low, high⟩ := visible
  simp only [isBlank, Bool.or_eq_false_iff, Bool.and_eq_false_iff, decide_eq_false_iff_not,
    beq_eq_false_iff_ne]
  omega

/-- A text keeps its ends if no character of it is of the class. -/
lemma trim_eq_self {p : Char → Bool} (outside : ∀ c ∈ cs, p c = false) : trim p cs = cs := by
  have kept : ∀ part ⊆ cs, part.dropWhile p = part := by
    intro part sub
    refine List.dropWhile_eq_self_iff.mpr fun filled inside => ?_
    rw [outside _ (sub (List.getElem_mem filled))] at inside
    cases inside
  rw [trim, trimEnd, trimStart, kept cs (List.Subset.refl cs),
    kept cs.reverse fun c mem => List.mem_reverse.mp mem, List.reverse_reverse]

/-- A text of visible characters has no blanks at its ends. -/
lemma trimBlanks_of_allVisible {s : String} (visible : AllVisible s.toList) : trimBlanks s = s := by
  rw [trimBlanks, trim_eq_self fun c mem => not_isBlank_of_visible (visible c mem),
    String.ofList_toList]

/-- A text has a part that stands behind a front and before a rest. -/
lemma hasInfix_append (front part rest : List Char) :
    hasInfix part (front ++ part ++ rest) = true := by
  rw [hasInfix]
  induction front with
  | nil =>
      rw [List.nil_append]
      cases part with
      | nil => cases rest <;> rfl
      | cons c part =>
          have found : (c :: part).isPrefixOf? (c :: part ++ rest) = some rest :=
            List.isPrefixOf?_eq_some_iff_append_eq.mpr rfl
          rw [List.cons_append] at found ⊢
          rw [splitAtFirst, found]
          rfl
  | cons c front ih =>
      rw [List.cons_append, List.cons_append, splitAtFirst]
      split
      · rfl
      · rw [Option.isSome_map]
        exact ih

end Wayfarer
