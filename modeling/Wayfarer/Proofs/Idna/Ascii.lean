import Wayfarer.Proofs.Idna.Visible
import Wayfarer.Proofs.Text.Normal
import Wayfarer.Proofs.Text.Percent

/-!
ASCII texts read as domain names.

* `Percent.decode_encode_of_not_mem`: a text without percent signs has no escapes;
* `Idna.mapped?_of_ascii`, `Idna.ascii_of_read`: of ASCII characters the mapping changes the case
  only, and a label travels in them as it stands;
* `Idna.eq_of_toAscii?_of_isPlain`: **a name in ASCII is its own form, in small letters**.
-/

namespace Wayfarer

variable {c : Char} {cs ascii : List Char}

/-- A text without percent signs has no escapes. -/
lemma Percent.decode_encode_of_not_mem (plain : ∀ c ∈ cs, c.toNat < 0x80 ∧ c ≠ '%') :
    Percent.decode (Utf8.encode cs) = Utf8.encode cs := by
  induction cs with
  | nil => simp [Utf8.encode, decode]
  | cons c cs ih =>
      obtain ⟨⟨low, other⟩, rest⟩ := List.forall_mem_cons.mp plain
      have byte : UInt8.ofNat c.toNat ≠ 0x25 := by
        intro same
        have number := congrArg UInt8.toNat same
        rw [UInt8.toNat_ofNat', Nat.mod_eq_of_lt (by omega)] at number
        refine other ?_
        rw [← Char.ofNat_toNat c, number]
        rfl
      have chars : Utf8.encode (c :: cs) = UInt8.ofNat c.toNat :: Utf8.encode cs := by
        rw [Utf8.encode, List.flatMap_cons, Utf8.encodeChar_of_lt low, List.singleton_append]
        rfl
      rw [chars, decode_cons byte, ih rest]

namespace Idna

/-- Of ASCII characters the mapping changes the case only. -/
lemma mapped?_of_ascii (low : ∀ c ∈ cs, c.toNat < 0x80) :
    mapped? cs = some (cs.map Char.toLower) := by
  have each : cs.mapM replacement? = some (cs.map fun c => [c.toLower]) := by
    refine mapM_eq_some_iff.mpr (List.forall₂_map_right_iff.mpr (List.forall₂_same.mpr ?_))
    intro c mem
    rw [replacement?, if_pos (low c mem)]
  rw [mapped?, each, Option.map_some, ← List.flatMap_def, ← List.map_eq_flatMap]

/-- An ASCII label travels as it stands. -/
lemma ascii_of_read {label : Label} (low : ∀ c ∈ cs, c.toNat < 0x80)
    (h : Label.read? cs = some label) : label.ascii = cs := by
  have all : cs.all (·.toNat < 128) = true :=
    List.all_eq_true.mpr fun c mem => decide_eq_true (low c mem)
  rw [Label.read?, if_pos all] at h
  split_ifs at h
  split at h
  · split at h
    · split_ifs at h
      cases h
      rfl
    · cases h
  · cases h
    rfl

/-- **A name in ASCII is its own form, in small letters.** -/
theorem eq_of_toAscii?_of_isPlain (plain : ∀ c ∈ cs, IsPlain c)
    (h : toAscii? (Percent.decode (Utf8.encode cs)) = some ascii) :
    ascii = cs.map Char.toLower := by
  have apart : ∀ c ∈ cs, c.toNat < 0x80 ∧ c ≠ '%' := by
    intro c mem
    refine ⟨(plain c mem).1, ?_⟩
    rintro rfl
    cases (plain _ mem).2
  have lower : ∀ n < 0x80, (Char.ofNat n).toLower.toNat < 0x80 := by decide +kernel
  have low : ∀ c ∈ cs.map Char.toLower, c.toNat < 0x80 :=
    List.forall_mem_map.mpr fun c mem =>
      forall_ascii (P := fun c => c.toLower.toNat < 0x80) lower (apart c mem).1
  rw [Percent.decode_encode_of_not_mem apart, toAscii?, Utf8.decode?_eq_some_iff.mpr rfl,
    Option.bind_eq_bind, Option.bind_some, mapped?_of_ascii fun c mem => (apart c mem).1,
    Option.bind_eq_bind, Option.bind_some, nfc_eq_self low] at h
  obtain ⟨labels, reads, h⟩ := Option.bind_eq_some_iff.mp h
  split_ifs at h
  cases h
  have inside : ∀ piece ∈ splitAtEvery (· = '.') (cs.map Char.toLower), ∀ c ∈ piece,
      c.toNat < 0x80 := fun piece mem c here => low c (mem_of_mem_splitAtEvery mem here)
  have each := (List.forall₂_and_left _ _).mpr ⟨inside, mapM_eq_some_iff.mp reads⟩
  have pieces : splitAtEvery (· = '.') (cs.map Char.toLower) = labels.map Label.ascii := by
    rw [← List.forall₂_eq_eq_eq, List.forall₂_map_right_iff]
    exact each.imp fun piece label both => (ascii_of_read both.1 both.2).symm
  rw [← pieces, intercalate_splitAtEvery]

end Idna

end Wayfarer
