import Mathlib
import Wayfarer.Hop.Sniff
import Wayfarer.Proofs.Hop.Course
import Wayfarer.Proofs.Text.Ends
import Wayfarer.Proofs.Text.Utf8

/-!
How much of a body tells whether it is a document.

* `StartsWith`: behind its blanks a text begins with a start of documents;
* `Opens`: the same of bytes, with the blanks in front named;
* `opens_of_startsWith`, `startsWith_of_opens`: what is read in front stands there in bytes, and
  back;
* `Response.margin`: how many bytes the blanks in front of a body take;
* `Response.isHtml_iff`: a body is taken for a document exactly if blanks and start fit into the
  part that is looked at;
* `Response.isHtml_agrees`: **that part agrees with the whole body**, unless blanks fill it.
-/

namespace Wayfarer

variable {cs ws mark : List Char} {bs : Bytes} {s : String} {n : ℕ} {r : Response}

/-! ### Letter case -/

lemma toLower_of_beyond {c : Char} (beyond : 0x80 ≤ c.toNat) : c.toLower = c := by
  have last : 'Z'.val.toNat < 0x80 := by decide
  have number : c.val.toNat = c.toNat := rfl
  rw [Char.toLower, dif_neg]
  simp only [ge_iff_le, UInt32.le_iff_toNat_le]
  omega

/-- A small letter of ASCII comes from a letter of ASCII. -/
lemma lt_of_toLower_lt {c : Char} (ascii : c.toLower.toNat < 0x80) : c.toNat < 0x80 := by
  by_contra beyond
  rw [toLower_of_beyond (Nat.not_lt.mp beyond)] at ascii
  exact beyond ascii

lemma isBlank_toLower (c : Char) : isBlank c.toLower = isBlank c := by
  by_cases ascii : c.toNat < 0x80
  · exact forall_ascii (P := fun c => isBlank c.toLower = isBlank c) (by decide +kernel) ascii
  · rw [toLower_of_beyond (Nat.not_lt.mp ascii)]

/-! ### The start of a document -/

/-- Behind its blanks a text begins with `s`, in letters of any case. -/
def StartsWith (s : String) (cs : List Char) : Prop :=
  s.toList <+: (cs.map Char.toLower).dropWhile isBlank

lemma startsDocument_iff : startsDocument cs = true ↔ ∃ s ∈ documentStarts, StartsWith s cs := by
  rw [startsDocument, List.any_eq_true]
  exact exists_congr fun s => and_congr_right fun _ => List.isPrefixOf_iff_prefix

/-- The starts of documents are short texts of ASCII, and their first character is no blank. -/
lemma start_plain (start : s ∈ documentStarts) :
    s.toList.length ≤ 14 ∧ s.toList.head? = some '<' ∧ ∀ c ∈ s.toList, c.toNat < 0x80 := by
  have all : documentStarts.all (fun s => decide (s.toList.length ≤ 14) &&
      decide (s.toList.head? = some '<') && s.toList.all (·.toNat < 0x80)) = true := by
    decide +kernel
  have here := List.all_eq_true.mp all s start
  simp only [Bool.and_eq_true, decide_eq_true_eq, List.all_eq_true] at here
  exact ⟨here.1.1, here.1.2, here.2⟩

/-- A mark is a start of documents in letters of any case. -/
structure Marks (s : String) (mark : List Char) : Prop where
  start : s ∈ documentStarts
  same : mark.map Char.toLower = s.toList

namespace Marks

lemma length_eq (marks : Marks s mark) : mark.length = s.toList.length := by
  rw [← marks.same, List.length_map]

lemma ascii (marks : Marks s mark) : ∀ c ∈ mark, c.toNat < 0x80 := by
  intro c mem
  refine lt_of_toLower_lt ((start_plain marks.start).2.2 _ ?_)
  rw [← marks.same]
  exact List.mem_map_of_mem mem

lemma not_isBlank_head (marks : Marks s mark) (rest : List Char) :
    ∀ c ∈ (mark ++ rest).head?, isBlank c = false := by
  have first := (start_plain marks.start).2.1
  rw [← marks.same, List.head?_map, Option.map_eq_some_iff] at first
  obtain ⟨d, head, small⟩ := first
  rw [List.head?_append, head]
  rintro c ⟨⟩
  rw [← isBlank_toLower, small]
  decide

end Marks

/-- A text begins with a start of documents where a mark stands behind its blanks. -/
lemma startsWith_iff (start : s ∈ documentStarts) :
    StartsWith s cs ↔ ∃ mark rest, Marks s mark ∧ cs = cs.takeWhile isBlank ++ mark ++ rest := by
  have folds : isBlank ∘ Char.toLower = isBlank := funext isBlank_toLower
  have whole := List.takeWhile_append_dropWhile (p := isBlank) (l := cs)
  rw [StartsWith, List.dropWhile_map, folds]
  constructor
  · rintro ⟨behind, split⟩
    obtain ⟨mark, rest, parts, same, -⟩ := List.map_eq_append_iff.mp split.symm
    refine ⟨mark, rest, ⟨start, same⟩, ?_⟩
    rw [List.append_assoc, ← parts, whole]
  · rintro ⟨mark, rest, marks, split⟩
    have behind : cs.dropWhile isBlank = mark ++ rest := by
      rw [List.append_assoc] at split
      exact List.append_cancel_left (whole.trans split)
    rw [behind, List.map_append, marks.same]
    exact List.prefix_append _ _

/-! ### The bytes of a body -/

/-- Bytes begin with the blanks `ws` and a mark behind them. -/
structure Opens (s : String) (ws : List Char) (bs : Bytes) : Prop where
  blank : ∀ c ∈ ws, isBlank c = true
  marked : ∃ mark rest, Marks s mark ∧ bs = Utf8.encode (ws ++ mark) ++ rest

/-- What is read in front of a body stands there in bytes. -/
lemma opens_of_startsWith (start : s ∈ documentStarts)
    (starts : StartsWith s (Utf8.decodeLossy bs)) :
    Opens s ((Utf8.decodeLossy bs).takeWhile isBlank) bs := by
  obtain ⟨mark, rest, marks, split⟩ := (startsWith_iff start).mp starts
  have blank : ∀ c ∈ (Utf8.decodeLossy bs).takeWhile isBlank, isBlank c = true :=
    fun c => List.mem_takeWhile_imp
  -- a replaced character is neither a blank nor of ASCII
  have solid : '\uFFFD' ∉ (Utf8.decodeLossy bs).takeWhile isBlank ++ mark := by
    rw [List.mem_append, not_or]
    exact ⟨fun mem => absurd (blank _ mem) (by decide),
      fun mem => absurd (marks.ascii _ mem) (by decide)⟩
  obtain ⟨bytes, there⟩ := Utf8.exists_of_decodeLossy_append solid split
  exact ⟨blank, mark, bytes, marks, there⟩

/-- What stands in front of a body in bytes is read there, whatever follows. -/
lemma startsWith_of_opens (opens : Opens s ws bs) :
    StartsWith s (Utf8.decodeLossy bs) ∧ (Utf8.decodeLossy bs).takeWhile isBlank = ws := by
  obtain ⟨blank, mark, rest, marks, rfl⟩ := opens
  have text : Utf8.decodeLossy (Utf8.encode (ws ++ mark) ++ rest) =
      ws ++ (mark ++ Utf8.decodeLossy rest) := by
    rw [Utf8.decodeLossy_encode_append, List.append_assoc]
  have front : (Utf8.decodeLossy (Utf8.encode (ws ++ mark) ++ rest)).takeWhile isBlank = ws := by
    rw [text]
    exact takeWhile_append_of_head blank (marks.not_isBlank_head _)
  refine ⟨(startsWith_iff marks.start).mpr ⟨mark, Utf8.decodeLossy rest, marks, ?_⟩, front⟩
  rw [front, text, List.append_assoc]

/-- The first `n` bytes begin as the whole does, if blanks and mark fit into them. -/
lemma opens_take_iff : Opens s ws (bs.take n) ↔
    Opens s ws bs ∧ (Utf8.encode ws).length + s.toList.length ≤ n := by
  have length {mark : List Char} (marks : Marks s mark) :
      (Utf8.encode (ws ++ mark)).length = (Utf8.encode ws).length + s.toList.length := by
    rw [Utf8.encode_append, List.length_append, Utf8.length_encode_of_lt marks.ascii,
      marks.length_eq]
  constructor
  · rintro ⟨blank, mark, rest, marks, window⟩
    refine ⟨⟨blank, mark, rest ++ bs.drop n, marks, ?_⟩, ?_⟩
    · rw [← List.append_assoc, ← window, List.take_append_drop]
    · have within := congrArg List.length window
      rw [List.length_append, length marks] at within
      have most := List.length_take_le n bs
      omega
  · rintro ⟨⟨blank, mark, rest, marks, rfl⟩, fits⟩
    rw [← length marks] at fits
    refine ⟨blank, mark, rest.take (n - (Utf8.encode (ws ++ mark)).length), marks, ?_⟩
    rw [List.take_append, List.take_of_length_le fits]

namespace Response

/-- How many bytes the blanks in front of a body take. -/
def margin (r : Response) : ℕ :=
  (Utf8.encode (r.text.takeWhile isBlank)).length

/-- A body without a header is taken for a document exactly if the blanks in front of it and the
start behind them fit into the part that is looked at. -/
theorem isHtml_iff (bare : r.headers.get? .contentType = none) :
    r.isHtml = true ↔
      ∃ s ∈ documentStarts, StartsWith s r.text ∧ r.margin + s.toList.length ≤ sniffed := by
  rw [isHtml, bare]
  change startsDocument (Utf8.decodeLossy (r.body.take sniffed)) = true ↔ _
  rw [startsDocument_iff]
  refine exists_congr fun s => and_congr_right fun start => ?_
  constructor
  · intro starts
    obtain ⟨opens, fits⟩ := opens_take_iff.mp (opens_of_startsWith start starts)
    obtain ⟨starts', front⟩ := startsWith_of_opens opens
    refine ⟨starts', ?_⟩
    rw [margin, text, front]
    exact fits
  · rintro ⟨starts, fits⟩
    exact (startsWith_of_opens (opens_take_iff.mpr ⟨opens_of_startsWith start starts, fits⟩)).1

/-- **The part of a body that is looked at agrees with the whole body.** Without a header, a body
that is taken for a document begins as documents do when all of it is read as text, and a body that
so begins is taken for one unless the blanks in front of it take more than 1010 bytes. -/
theorem isHtml_agrees (bare : r.headers.get? .contentType = none) :
    (r.isHtml = true → ∃ s ∈ documentStarts, StartsWith s r.text) ∧
    ((∃ s ∈ documentStarts, StartsWith s r.text) → r.margin ≤ 1010 → r.isHtml = true) := by
  rw [isHtml_iff bare]
  constructor
  · rintro ⟨s, start, starts, -⟩
    exact ⟨s, start, starts⟩
  · rintro ⟨s, start, starts⟩ fits
    refine ⟨s, start, starts, ?_⟩
    have short := (start_plain start).1
    rw [sniffed]
    omega

/-- The answer with a document behind so many blanks that a character of it lies across the end of
the part that is looked at. -/
def behindBlanks : Response where
  status := .ok
  url := .front "http" 1
  headers := .empty
  body := Utf8.encode (List.replicate 505 '\u00A0' ++ "<HTML>€€€€".toList)

/-- The character that is cut is not read, and the body is taken for a document all the same. -/
theorem isHtml_behind_blanks :
    behindBlanks.headers.get? .contentType = none ∧
    (Utf8.decodeLossy (behindBlanks.body.take sniffed)).getLast? = some '\uFFFD' ∧
    behindBlanks.margin = 1010 ∧ behindBlanks.isHtml = true := by
  have text : behindBlanks.text = List.replicate 505 '\u00A0' ++ "<HTML>€€€€".toList :=
    Utf8.decodeLossy_encode _
  have margin_eq : behindBlanks.margin = 1010 := by
    rw [margin, text]
    decide +kernel
  have starts : ∃ s ∈ documentStarts, StartsWith s behindBlanks.text := by
    rw [text]
    exact startsDocument_iff.mp (by decide +kernel)
  have agrees := isHtml_agrees (r := behindBlanks) rfl
  exact ⟨rfl, by decide +kernel, margin_eq, agrees.2 starts margin_eq.le⟩

end Response

end Wayfarer
