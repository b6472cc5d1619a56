import Mathlib
import Wayfarer.Hop.Target
import Wayfarer.Proofs.Hop.Escaped
import Wayfarer.Proofs.Text.Percent

/-!
How a target is spelled in ASCII.

* `Target.bytesIn_decode`: the text of a field value has the bytes of the value in its charset;
* `Target.spelling`: bytes in ASCII, those that a URL cannot hold as escapes;
* `Target.escaped_decode`: a field value is written as the spelling of its bytes, whatever its
  charset is;
* `Target.IsSpelling`: what a spelling keeps of the bytes;
* `Target.isSpelling_escaped_decode`: **the spelling of a field value loses nothing**.
-/

namespace Wayfarer

namespace Target

variable {b : UInt8} {c : Char} {cs : List Char}

/-! ### Texts and bytes -/

/-- A text in which each byte is a character has those bytes. -/
lemma bytesIn_latin1 (raw : Bytes) :
    bytesIn .latin1 (raw.map fun b => Char.ofNat b.toNat) = raw := by
  rw [bytesIn, List.map_map]
  conv_rhs => rw [← List.map_id raw]
  refine List.map_congr_left fun b _ => ?_
  rw [Function.comp_apply, Utf8.toNat_ofNat_byte, UInt8.ofNat_toNat, id_eq]

/-- **The text of a field value has the bytes of the value.** -/
theorem bytesIn_decode (raw : Bytes) : bytesIn (decode raw).2 (decode raw).1 = raw := by
  rw [decode]
  split
  · next cs reads => exact Utf8.decode?_eq_some_iff.mp reads
  · exact bytesIn_latin1 raw

/-! ### Spellings -/

/-- The bytes that a target cannot hold as they stand: the space and those below it, the last one
of ASCII and those beyond, and some marks. -/
def mustEscape (b : UInt8) : Bool :=
  b ≤ 0x20 || 0x7F ≤ b || [0x22, 0x3C, 0x3E, 0x5C, 0x5E, 0x60, 0x7B, 0x7C, 0x7D].contains b

/-- Bytes in ASCII: as they stand, or as a percent sign and two hexadecimal digits. -/
def spelling (bs : Bytes) : List Char :=
  bs.flatMap fun b =>
    if mustEscape b then ['%', hexDigit (b.toNat / 16), hexDigit (b.toNat % 16)]
    else [Char.ofNat b.toNat]

lemma escapes_isUnsafe (b : UInt8) : Percent.escapes isUnsafe b = mustEscape b := by
  exact forall_byte (P := fun b => Percent.escapes isUnsafe b = mustEscape b) (by decide +kernel) b

lemma encode_isUnsafe (bs : Bytes) : Percent.encode isUnsafe bs = spelling bs := by
  have byte : Percent.encodeByte isUnsafe = fun b =>
      if mustEscape b then ['%', hexDigit (b.toNat / 16), hexDigit (b.toNat % 16)]
      else [Char.ofNat b.toNat] := by
    funext b
    rw [← escapes_isUnsafe]
    rfl
  rw [Percent.encode, spelling, byte]

/-- A field value is written as the spelling of its bytes, whatever its charset is. -/
lemma escaped_decode (raw : Bytes) : escaped (decode raw).1 (decode raw).2 = spelling raw := by
  rw [escaped, bytesIn_decode, encode_isUnsafe]

/-- Neither percent signs nor digits are escaped. -/
lemma sparesEscapes_isUnsafe : Percent.SparesEscapes isUnsafe where
  percent := by decide
  digit := forall_byte (by decide +kernel)

/-! ### What a spelling keeps -/

/-- A visible character of ASCII that is no quotation mark, angle bracket, grave accent, brace, bar,
backslash or caret. -/
def IsPlain (c : Char) : Prop :=
  0x20 < c.toNat ∧ c.toNat < 0x7F ∧ c ∉ "\"<>\x60\x7b\x7d|\\^".toList

instance : DecidablePred IsPlain := fun _ => inferInstanceAs (Decidable (_ ∧ _))

lemma IsPlain.visible (plain : IsPlain c) : Base64.Visible c :=
  ⟨plain.1, plain.2.1⟩

lemma IsPlain.isWritten (plain : IsPlain c) : IsWritten c := by
  refine ⟨plain.1, ?_⟩
  rintro rfl
  exact absurd plain (by decide)

/-- What is not escaped is plain, and nothing else is. -/
lemma isPlain_iff {n : ℕ} (small : n < 256) :
    IsPlain (Char.ofNat n) ↔ mustEscape (UInt8.ofNat n) = false := by
  have all : ∀ n < 256, IsPlain (Char.ofNat n) ↔ mustEscape (UInt8.ofNat n) = false := by
    decide +kernel
  exact all n small

lemma isPlain_of_mem_spelling {bs : Bytes} (mem : c ∈ spelling bs) : IsPlain c := by
  obtain ⟨b, -, here⟩ := List.mem_flatMap.mp mem
  have digits : ∀ n < 16, IsPlain (hexDigit n) := by decide
  have percent : IsPlain '%' := by decide
  have small : b.toNat < 256 := b.toNat_lt
  split_ifs at here with coded
  · simp only [List.mem_cons, List.not_mem_nil, or_false] at here
    rcases here with rfl | rfl | rfl
    · exact percent
    · exact digits _ (by omega)
    · exact digits _ (by omega)
  · obtain rfl := List.mem_singleton.mp here
    rw [isPlain_iff small, UInt8.ofNat_toNat]
    exact Bool.eq_false_iff.mpr coded

/-- A plain character is written as itself in either charset. -/
lemma escaped_singleton_of_isPlain (plain : IsPlain c) (charset : Charset) :
    escaped [c] charset = [c] := by
  have small : c.toNat < 127 := plain.2.1
  have number : (UInt8.ofNat c.toNat).toNat = c.toNat :=
    UInt8.toNat_ofNat_of_lt' (small.trans (by decide))
  have kept : mustEscape (UInt8.ofNat c.toNat) = false := by
    rw [← isPlain_iff (by omega), Char.ofNat_toNat]
    exact plain
  have bytes : bytesIn charset [c] = [UInt8.ofNat c.toNat] := by
    cases charset with
    | latin1 => rfl
    | utf8 => rw [bytesIn, Utf8.encode, List.flatMap_singleton, Utf8.encodeChar_of_lt (by omega)]
  rw [escaped, bytes, encode_isUnsafe, spelling, List.flatMap_singleton, if_neg (by simp [kept]),
    number, Char.ofNat_toNat]

lemma escaped_of_isPlain (plain : ∀ c ∈ cs, IsPlain c) (charset : Charset) :
    escaped cs charset = cs := by
  induction cs with
  | nil => cases charset <;> rfl
  | cons c cs ih =>
      obtain ⟨here, behind⟩ := List.forall_mem_cons.mp plain
      rw [escaped_cons, escaped_singleton_of_isPlain here, ih behind, List.singleton_append]

/-- The bytes that are not escaped stand in a spelling in their order. -/
lemma sublist_spelling (bs : Bytes) :
    ((bs.filter (!mustEscape ·)).map fun b => Char.ofNat b.toNat).Sublist (spelling bs) := by
  induction bs with
  | nil => exact .slnil
  | cons b bs ih =>
      rw [spelling, List.flatMap_cons, List.filter_cons]
      cases coded : mustEscape b with
      | true => exact ih.trans (List.sublist_append_right _ _)
      | false => exact ih.cons_cons _

/-- What the spelling `cs` of bytes keeps of them. -/
structure IsSpelling (raw : Bytes) (cs : List Char) : Prop where
  /-- It is made of plain characters. -/
  plain : ∀ c ∈ cs, IsPlain c
  /-- It stands for what the bytes stand for. -/
  meaning : Percent.decode (Utf8.encode cs) = Percent.decode raw
  /-- Each byte is written as it stands or as an escape, -/
  spelled : cs = spelling raw
  /-- and those that need no escape, percent signs among them, stand in it in their order. -/
  kept : ((raw.filter (!mustEscape ·)).map fun b => Char.ofNat b.toNat).Sublist cs
  /-- Written once more, it is the same in either charset. -/
  stable : ∀ charset, escaped cs charset = cs

/-- **The spelling of a field value loses nothing**, whatever its bytes are. -/
theorem isSpelling_escaped_decode (raw : Bytes) :
    IsSpelling raw (escaped (decode raw).1 (decode raw).2) := by
  rw [escaped_decode]
  refine ⟨fun _ => isPlain_of_mem_spelling, ?_, rfl, sublist_spelling raw,
    escaped_of_isPlain fun _ => isPlain_of_mem_spelling⟩
  rw [← encode_isUnsafe]
  exact sparesEscapes_isUnsafe.decode_encode raw

end Target

end Wayfarer
