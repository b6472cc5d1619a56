import Wayfarer.Proofs.Text.Normal
import Wayfarer.Proofs.Text.Percent
import Wayfarer.Proofs.Text.Pieces
import Wayfarer.Proofs.Text.Visible
import Wayfarer.Url.Host

/-!
Hosts that no text with an `@` is.

* `Idna.toAscii?_eq_none`: a name is none if a character stands in it that names do not have, and no
  other one takes that in;
* `Ipv6.forall_isAddressChar`: a numeric address has hexadecimal digits, colons and points;
* `Host.not_mem_at_of_read`: **no text with an `@` is the host of a special scheme**.
-/

namespace Wayfarer

variable {c : Char} {cs : List Char} {host : Host}

/-! ### Names -/

namespace Idna

/-- An ASCII character that is no letter is kept. -/
lemma replacement?_eq_self (ascii : c.toNat < 0x80) (mark : c.isAlpha = false) :
    replacement? c = some [c] := by
  have kept : ∀ n < 0x80, (Char.ofNat n).isAlpha = false →
      (Char.ofNat n).toLower = Char.ofNat n := by
    decide +kernel
  have same := kept c.toNat ascii
  rw [Char.ofNat_toNat] at same
  rw [replacement?, if_pos ascii, same mark]

lemma mem_of_mapped {text : List Char} (kept : replacement? c = some [c])
    (maps : mapped? text = some cs) (mem : c ∈ text) : c ∈ cs := by
  obtain ⟨parts, reads, rfl⟩ := Option.map_eq_some_iff.mp maps
  obtain ⟨part, inside, here⟩ := exists_of_forall₂_left (mapM_eq_some_iff.mp reads) mem
  obtain rfl := Option.some.inj (kept.symm.trans here)
  exact List.mem_flatten.mpr ⟨_, inside, List.mem_singleton_self c⟩

lemma isAlpha_of_not_combines (single : Canonical.combines c.toNat = false) :
    c.isAlpha = false := by
  rw [Canonical.combines, Bool.or_eq_false_iff, Bool.or_eq_false_iff, Char.ofNat_toNat] at single
  exact single.1.2

/-- **A character that names do not have** stays in a name to the end if it combines with no other
one, so that the name is none. -/
theorem toAscii?_eq_none {bs : Bytes} {text : List Char} (spells : Utf8.decode? bs = some text)
    (mem : c ∈ text) (ascii : c.toNat < 0x80) (single : Canonical.combines c.toNat = false)
    (forbidden : isForbidden c = true) : toAscii? bs = none := by
  by_contra named
  obtain ⟨result, named⟩ := Option.ne_none_iff_exists'.mp named
  rw [toAscii?] at named
  obtain ⟨text', spells', named⟩ := Option.bind_eq_some_iff.mp named
  obtain rfl := Option.some.inj (spells.symm.trans spells')
  obtain ⟨composed, maps, named⟩ := Option.bind_eq_some_iff.mp named
  obtain ⟨labels, reads, -⟩ := Option.bind_eq_some_iff.mp named
  have mark := isAlpha_of_not_combines single
  have kept := mem_of_mapped (replacement?_eq_self ascii mark) maps mem
  have inside := mem_nfc_of_isApart (Normal.isApart_of_not_combines ascii single) kept
  have apart : decide (c = '.') = false := by
    rw [decide_eq_false_iff_not]
    rintro rfl
    revert forbidden
    decide
  obtain ⟨piece, there, here⟩ := exists_mem_splitAtEvery (p := (· = '.')) apart inside
  obtain ⟨label, -, read⟩ := exists_of_forall₂_left (mapM_eq_some_iff.mp reads) there
  rw [Label.read?, if_pos (List.any_eq_true.mpr ⟨c, here, forbidden⟩)] at read
  cases read

end Idna

/-! ### Addresses in brackets -/

namespace Ipv6

/-- The characters of an address. -/
def isAddressChar (c : Char) : Bool :=
  (hexValue? c).isSome || c = ':' || c = '.'

lemma isAddressChar_of_isDigit (digit : c.isDigit = true) : isAddressChar c = true := by
  rw [isAddressChar, hexValue?, if_pos digit]
  rfl

lemma forall_of_piece {n : ℕ} (reads : piece? cs = some n) :
    ∀ c ∈ cs, isAddressChar c = true := by
  intro c mem
  rw [piece?] at reads
  split_ifs at reads
  obtain ⟨digits, reads, -⟩ := Option.map_eq_some_iff.mp reads
  obtain ⟨d, -, value⟩ := exists_of_forall₂_left (mapM_eq_some_iff.mp reads) mem
  rw [isAddressChar, value]
  rfl

lemma forall_of_decimalPieces {ns : List ℕ} (reads : decimalPieces? cs = some ns) :
    ∀ c ∈ cs, isAddressChar c = true := by
  intro c mem
  rw [decimalPieces?] at reads
  obtain ⟨bytes, reads, -⟩ := Option.bind_eq_some_iff.mp reads
  by_cases point : c = '.'
  · subst point
    rfl
  · obtain ⟨part, inside, here⟩ :=
      exists_mem_splitAtEvery (p := (· = '.')) (decide_eq_false point) mem
    obtain ⟨byte, -, value⟩ := exists_of_forall₂_left (mapM_eq_some_iff.mp reads) inside
    rw [byte?] at value
    split_ifs at value with none
    · rw [not_or, not_or, Bool.not_eq_true', Bool.not_eq_false, List.all_eq_true] at none
      exact isAddressChar_of_isDigit (none.2.1 c here)

lemma forall_of_pieces {decimalLast : Bool} {parts : List (List Char)} {ns : List ℕ}
    (reads : pieces? decimalLast parts = some ns) :
    ∀ part ∈ parts, ∀ c ∈ part, isAddressChar c = true := by
  fun_induction pieces? decimalLast parts generalizing ns with
  | case1 => simp
  | case2 part decimal => simpa using forall_of_decimalPieces reads
  | case3 part plain =>
      obtain ⟨n, reads, -⟩ := Option.map_eq_some_iff.mp reads
      simpa using forall_of_piece reads
  | case4 part parts several ih =>
      obtain ⟨n, first, reads⟩ := Option.bind_eq_some_iff.mp reads
      obtain ⟨others, behind, -⟩ := Option.bind_eq_some_iff.mp reads
      exact List.forall_mem_cons.mpr ⟨forall_of_piece first, ih behind⟩

lemma forall_of_side {decimalLast : Bool} {ns : List ℕ} (reads : side? decimalLast cs = some ns) :
    ∀ c ∈ cs, isAddressChar c = true := by
  intro c mem
  rw [side?] at reads
  split_ifs at reads with empty
  · rw [List.isEmpty_iff.mp empty] at mem
    cases mem
  · by_cases colon : c = ':'
    · subst colon
      rfl
    · obtain ⟨part, inside, here⟩ :=
        exists_mem_splitAtEvery (p := (· = ':')) (decide_eq_false colon) mem
      exact forall_of_pieces reads part inside c here

/-- An address has hexadecimal digits, colons and points only. -/
theorem forall_isAddressChar {ns : List ℕ} (reads : read? cs = some ns) :
    ∀ c ∈ cs, isAddressChar c = true := by
  rw [read?] at reads
  split at reads
  · obtain ⟨pieces, reads, -⟩ := Option.bind_eq_some_iff.mp reads
    exact forall_of_side reads
  · next before after split =>
      obtain ⟨front, first, reads⟩ := Option.bind_eq_some_iff.mp reads
      obtain ⟨back, second, -⟩ := Option.bind_eq_some_iff.mp reads
      rw [append_of_splitAtFirst split]
      have colons : ∀ c ∈ [':', ':'], isAddressChar c = true := List.all_eq_true.mp rfl
      simp only [List.forall_mem_append]
      exact ⟨⟨forall_of_side first, colons⟩, forall_of_side second⟩

end Ipv6

/-! ### Hosts -/

namespace Host

/-- **No text with an at sign is the host of a special scheme.** -/
theorem not_mem_at_of_read (reads : read cs = .ok host) : '@' ∉ cs := by
  intro mem
  rw [read.eq_def] at reads
  split at reads
  · next inner =>
      rw [readBracketed] at reads
      split at reads
      · next last =>
          split at reads
          · next pieces address =>
              have within : '@' ∈ inner := (List.mem_cons.mp mem).resolve_left (by decide)
              rw [← List.dropLast_append_getLast? _ last, List.mem_append] at within
              have front := within.resolve_right (by decide)
              cases Ipv6.forall_isAddressChar address _ front
          · cases reads
      · cases reads
  · split at reads
    · next ascii named =>
        have byte : (0x40 : UInt8) ∈ Percent.decode (Utf8.encode cs) :=
          Percent.mem_decode (by decide) (by decide)
            (List.mem_flatMap.mpr ⟨'@', mem, List.mem_singleton_self _⟩)
        obtain ⟨text, spells, -⟩ := Option.bind_eq_some_iff.mp named
        rw [← Utf8.decode?_eq_some_iff.mp spells] at byte
        have here : '@' ∈ text := Utf8.ofNat_mem_of_mem_encode byte (by decide)
        rw [Idna.toAscii?_eq_none spells here (by decide) (by decide) (by decide)] at named
        cases named
    · cases reads

end Host

end Wayfarer
