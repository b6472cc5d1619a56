import Mathlib
import Wayfarer.Proofs.Hop.Course
import Wayfarer.Proofs.Hop.Spelling
import Wayfarer.Proofs.Text.Ends

/-!
What a target loses at its ends.

* `Target.isAsciiBlank`: the white space of ASCII;
* `Target.decode_stripped`: such bytes at the ends of a field value have no part in its charset;
* `Target.resolution`: where bytes lead of which none is left out;
* `Target.resolve_eq_resolution`: **what a field value leads to**: its bytes without the white space
  of ASCII at the ends, if they begin and end with characters that are no blanks, and otherwise
  those between such characters;
* `Target.last_blank_lost`: a last byte beyond ASCII that is a blank is left out.
-/

namespace Wayfarer

namespace Target

variable {charset : Charset} {b : UInt8} {c : Char} {cs front back : List Char}

/-! ### White space of ASCII -/

/-- A tab, a line feed, a form feed, a carriage return or a space. -/
def isAsciiBlank (b : UInt8) : Bool :=
  [0x09, 0x0A, 0x0C, 0x0D, 0x20].contains b

/-- A character of that kind. -/
def isAsciiBlankChar (c : Char) : Bool :=
  c.toNat < 0x80 && isAsciiBlank (UInt8.ofNat c.toNat)

lemma lt_of_isAsciiBlankChar (blank : isAsciiBlankChar c = true) : c.toNat < 0x80 := by
  rw [isAsciiBlankChar, Bool.and_eq_true, decide_eq_true_eq] at blank
  exact blank.1

lemma lt_of_isAsciiBlank (blank : isAsciiBlank b = true) : b < 0x80 := by
  revert blank
  exact forall_byte (P := fun b => isAsciiBlank b = true → b < 0x80) (by decide +kernel) b

/-- Such a character is a blank. -/
lemma isBlank_of_isAsciiBlankChar (blank : isAsciiBlankChar c = true) : isBlank c = true := by
  exact forall_ascii (P := fun c => isAsciiBlankChar c = true → isBlank c = true)
    (by decide +kernel) (lt_of_isAsciiBlankChar blank) blank

lemma isAsciiBlankChar_ofNat (b : UInt8) :
    isAsciiBlankChar (Char.ofNat b.toNat) = isAsciiBlank b :=
  forall_byte (P := fun b => isAsciiBlankChar (Char.ofNat b.toNat) = isAsciiBlank b)
    (by decide +kernel) b

/-! ### Bytes of a text -/

lemma bytesIn_append (charset : Charset) (cs ds : List Char) :
    bytesIn charset (cs ++ ds) = bytesIn charset cs ++ bytesIn charset ds := by
  cases charset with
  | utf8 => exact Utf8.encode_append cs ds
  | latin1 => exact List.map_append

lemma bytesIn_cons (charset : Charset) (c : Char) (cs : List Char) :
    bytesIn charset (c :: cs) = bytesIn charset [c] ++ bytesIn charset cs :=
  bytesIn_append charset [c] cs

lemma bytesIn_singleton_of_lt (ascii : c.toNat < 0x80) (charset : Charset) :
    bytesIn charset [c] = [UInt8.ofNat c.toNat] := by
  cases charset with
  | utf8 => rw [bytesIn, Utf8.encode, List.flatMap_singleton, Utf8.encodeChar_of_lt ascii]
  | latin1 => rfl

lemma bytesIn_singleton_ne_nil (charset : Charset) (c : Char) : bytesIn charset [c] ≠ [] := by
  cases charset with
  | utf8 =>
      rw [bytesIn, Utf8.encode, List.flatMap_singleton]
      exact String.utf8EncodeChar_ne_nil
  | latin1 => exact List.cons_ne_nil _ _

/-- A byte of ASCII in a text of a charset is the character. -/
lemma eq_of_mem_bytesIn (holds : charset.Holds [c]) (mem : b ∈ bytesIn charset [c])
    (ascii : b < 0x80) : Char.ofNat b.toNat = c := by
  cases charset with
  | utf8 =>
      rw [bytesIn, Utf8.encode, List.flatMap_singleton] at mem
      exact Utf8.eq_of_mem_encodeChar mem ascii
  | latin1 =>
      have small : c.toNat < 256 := holds c (List.mem_singleton_self c)
      obtain rfl := List.mem_singleton.mp mem
      rw [UInt8.toNat_ofNat_of_lt' small, Char.ofNat_toNat]

/-- White space of ASCII in the bytes of a character is the character. -/
lemma isAsciiBlank_of_mem_bytesIn (holds : charset.Holds [c]) (firm : isAsciiBlankChar c = false)
    (mem : b ∈ bytesIn charset [c]) : isAsciiBlank b = false := by
  by_contra blank
  rw [Bool.not_eq_false] at blank
  obtain rfl := eq_of_mem_bytesIn holds mem (lt_of_isAsciiBlank blank)
  rw [isAsciiBlankChar_ofNat, blank] at firm
  cases firm

lemma isAsciiBlank_of_mem (blank : ∀ c ∈ cs, isAsciiBlankChar c = true) :
    ∀ b ∈ bytesIn charset cs, isAsciiBlank b = true := by
  induction cs with
  | nil => cases charset <;> exact nofun
  | cons c cs ih =>
      obtain ⟨here, behind⟩ := List.forall_mem_cons.mp blank
      rw [bytesIn_cons, bytesIn_singleton_of_lt (lt_of_isAsciiBlankChar here)]
      refine List.forall_mem_cons.mpr ⟨?_, ih behind⟩
      exact (Bool.and_eq_true _ _ ▸ here).2

/-- A text that begins and ends with other characters begins and ends with other bytes. -/
lemma firm_bytesIn (holds : charset.Holds cs) (firm : Firm isAsciiBlankChar cs) :
    Firm isAsciiBlank (bytesIn charset cs) := by
  constructor
  · cases cs with
    | nil => cases charset <;> exact nofun
    | cons c cs =>
        intro b first
        have here : b ∈ bytesIn charset [c] := by
          rw [bytesIn_cons, List.head?_append_of_ne_nil _ (bytesIn_singleton_ne_nil charset c)]
            at first
          exact List.mem_of_mem_head? first
        exact isAsciiBlank_of_mem_bytesIn holds.head (firm.head c rfl) here
  · rcases List.eq_nil_or_concat' cs with rfl | ⟨front, c, rfl⟩
    · cases charset <;> exact nofun
    · intro b last
      have here : b ∈ bytesIn charset [c] := by
        rw [bytesIn_append, List.getLast?_append_of_ne_nil _ (bytesIn_singleton_ne_nil charset c)]
          at last
        exact List.mem_of_getLast? last
      have alone := holds.subset (List.subset_append_right front [c])
      exact isAsciiBlank_of_mem_bytesIn alone (firm.last c (by simp)) here

/-- Bytes and text lose the same white space of ASCII. -/
lemma stripped_bytesIn (holds : charset.Holds cs) :
    stripped isAsciiBlank (bytesIn charset cs) =
      bytesIn charset (stripped isAsciiBlankChar cs) := by
  obtain ⟨front, back, whole, before, behind, firm⟩ := exists_stripped isAsciiBlankChar cs
  have inner : stripped isAsciiBlankChar cs ⊆ cs := by
    conv_rhs => rw [whole]
    intro c mem
    simp [mem]
  conv_lhs => rw [whole, bytesIn_append, bytesIn_append]
  exact stripped_append (isAsciiBlank_of_mem before) (isAsciiBlank_of_mem behind)
    (firm_bytesIn (holds.subset inner) firm)

/-- White space of ASCII around bytes in UTF-8 leaves them in UTF-8. -/
lemma exists_decode_of_stripped {raw : Bytes} {ds : List Char}
    (reads : Utf8.decode? (stripped isAsciiBlank raw) = some ds) :
    ∃ cs, Utf8.decode? raw = some cs := by
  have ascii : ∀ bs : Bytes, (∀ b ∈ bs, isAsciiBlank b = true) →
      Utf8.encode (bs.map fun b => Char.ofNat b.toNat) = bs := by
    intro bs blank
    rw [Utf8.encode, List.flatMap_map]
    conv_rhs => rw [← List.flatMap_singleton' bs]
    exact List.flatMap_congr fun b mem =>
      Utf8.encodeChar_of_ascii (lt_of_isAsciiBlank (blank b mem))
  obtain ⟨front, back, whole, before, behind, -⟩ := exists_stripped isAsciiBlank raw
  refine ⟨front.map (fun b => Char.ofNat b.toNat) ++ ds ++ back.map fun b => Char.ofNat b.toNat, ?_⟩
  rw [Utf8.decode?_eq_some_iff] at reads ⊢
  have split := bytesIn_append .utf8
  simp only [bytesIn] at split
  rw [split, split, ascii front before, ascii back behind, reads]
  exact whole.symm

/-- **White space of ASCII at the ends of a field value has no part in its charset**, and is white
space in its text. -/
lemma decode_stripped (raw : Bytes) :
    decode (stripped isAsciiBlank raw) =
      (stripped isAsciiBlankChar (decode raw).1, (decode raw).2) := by
  cases reads : Utf8.decode? raw with
  | some cs =>
      have bytes : stripped isAsciiBlank raw = Utf8.encode (stripped isAsciiBlankChar cs) := by
        have holds : Charset.utf8.Holds cs := trivial
        rw [← Utf8.decode?_eq_some_iff.mp reads]
        exact stripped_bytesIn holds
      rw [decode, decode, reads, Utf8.decode?_eq_some_iff.mpr bytes.symm]
  | none =>
      have gap : Utf8.decode? (stripped isAsciiBlank raw) = none := by
        by_contra found
        obtain ⟨ds, text⟩ := Option.ne_none_iff_exists'.mp found
        obtain ⟨cs, whole⟩ := exists_decode_of_stripped text
        cases reads.symm.trans whole
      have same : (isAsciiBlankChar ∘ fun b : UInt8 => Char.ofNat b.toNat) = isAsciiBlank :=
        funext isAsciiBlankChar_ofNat
      rw [decode, decode, reads, gap]
      dsimp only
      rw [stripped_map, same]

/-! ### Where bytes lead -/

/-- A spelling as a reference: slashes at the front, two or more, stand for the scheme of the base
and an authority. -/
def location (base : Url) (cs : List Char) : String :=
  if "//".toList.isPrefixOf cs then
    base.scheme ++ "://" ++ String.ofList (cs.dropWhile (· = '/'))
  else String.ofList cs

/-- Where bytes lead of which none is left out: to what their spelling names relative to the base,
if there are any. -/
def resolution (base : Url) (bs : Bytes) : Except TargetError Url :=
  if bs = [] then .error .empty
  else (base.join (location base (spelling bs))).mapError
    (.unresolvable (location base (spelling bs)))

lemma reference_eq_location (base : Url) (cs : List Char) :
    reference base cs = location base cs := by
  rw [reference.eq_def, location]
  split
  · rfl
  · next short =>
      rw [if_neg]
      intro slashes
      obtain ⟨rest, rfl⟩ := List.isPrefixOf_iff_prefix.mp slashes
      exact short rest rfl

lemma bytesIn_eq_nil_iff : bytesIn charset cs = [] ↔ cs = [] := by
  cases cs with
  | nil => cases charset <;> simp [bytesIn, Utf8.encode]
  | cons c cs =>
      rw [bytesIn_cons]
      simp [bytesIn_singleton_ne_nil]

/-- A text leads where its bytes do. -/
lemma resolveIn_eq_resolution (charset : Charset) (base : Url) (cs : List Char) :
    resolveIn charset base cs = resolution base (bytesIn charset cs) := by
  rw [resolveIn, resolution]
  by_cases empty : cs = []
  · rw [if_pos (List.isEmpty_iff.mpr empty), if_pos (bytesIn_eq_nil_iff.mpr empty)]
  · rw [if_neg (List.isEmpty_iff.not.mpr empty), if_neg (bytesIn_eq_nil_iff.not.mpr empty), escaped,
      encode_isUnsafe, reference_eq_location]
    dsimp only
    cases base.join (location base (spelling (bytesIn charset cs))) <;> rfl

/-- **What a field value leads to.** Its bytes without the white space of ASCII at their ends lead
there, none of them left out, if their text neither begins nor ends with a blank. In any case those
of their text between the blanks at its ends do. -/
theorem resolve_eq_resolution (base : Url) (raw : Bytes) :
    (Firm isBlank (decode (stripped isAsciiBlank raw)).1 →
      resolve base raw = resolution base (stripped isAsciiBlank raw)) ∧
    ∃ front kept back, (decode (stripped isAsciiBlank raw)).1 = front ++ kept ++ back ∧
      (∀ c ∈ front ++ back, isBlank c = true) ∧ Firm isBlank kept ∧
      resolve base raw = resolution base (bytesIn (decode (stripped isAsciiBlank raw)).2 kept) := by
  have leads : resolve base raw = resolution base (bytesIn (decode (stripped isAsciiBlank raw)).2
      (stripped isBlank (decode (stripped isAsciiBlank raw)).1)) := by
    rw [decode_stripped, stripped_stripped fun c => isBlank_of_isAsciiBlankChar,
      ← resolveIn_eq_resolution, ← trim_eq_stripped]
    rfl
  obtain ⟨front, back, whole, before, behind, firm⟩ :=
    exists_stripped isBlank (decode (stripped isAsciiBlank raw)).1
  refine ⟨fun ends => ?_, front, _, back, whole, ?_, firm, leads⟩
  · rw [leads, stripped_of_firm ends, bytesIn_decode]
  · exact List.forall_mem_append.mpr ⟨before, behind⟩

/-- A byte beyond ASCII at the end is kept where it stands for a letter, -/
theorem last_letter_kept :
    Firm isBlank (decode (stripped isAsciiBlank [0x20, 0x2F, 0x61, 0xE9, 0x09])).1 ∧
      resolve (.front "http" 1) [0x20, 0x2F, 0x61, 0xE9, 0x09] =
        resolution (.front "http" 1) [0x2F, 0x61, 0xE9] ∧
      resolution (.front "http" 1) [0x2F, 0x61, 0xE9] =
        .ok { Url.front "http" 1 with path := .names ["a%E9"] } := by
  have firm : Firm isBlank (decode (stripped isAsciiBlank [0x20, 0x2F, 0x61, 0xE9, 0x09])).1 := by
    decide +kernel
  have rest : stripped isAsciiBlank [0x20, 0x2F, 0x61, 0xE9, 0x09] = [0x2F, 0x61, 0xE9] := by decide
  have leads := (resolve_eq_resolution (.front "http" 1) [0x20, 0x2F, 0x61, 0xE9, 0x09]).1 firm
  rw [rest] at leads
  exact ⟨firm, leads, by decide +kernel⟩

/-- and lost where it stands for a blank: then the value leads elsewhere than its bytes do. -/
theorem last_blank_lost :
    stripped isAsciiBlank [0x2F, 0x61, 0xA0] = [0x2F, 0x61, 0xA0] ∧
      resolve (.front "http" 1) [0x2F, 0x61, 0xA0] =
        .ok { Url.front "http" 1 with path := .names ["a"] } ∧
      resolution (.front "http" 1) [0x2F, 0x61, 0xA0] =
        .ok { Url.front "http" 1 with path := .names ["a%A0"] } ∧
      resolve (.front "http" 1) [0x2F, 0x61, 0xA0] ≠
        resolution (.front "http" 1) (stripped isAsciiBlank [0x2F, 0x61, 0xA0]) := by
  decide +kernel

end Target

end Wayfarer
