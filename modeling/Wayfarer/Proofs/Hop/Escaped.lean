import Mathlib
import Wayfarer.Hop.Target
import Wayfarer.Proofs.Url.Read

/-!
What the escapes of a target leave of its text.

* `Charset.Holds`: a text that the bytes of a charset can stand for; `Target.holds_decode` finds
  the text of every field value to be one;
* `Target.escaped_singleton_or`: a character is written as itself or begins with a percent sign;
* `Target.exists_of_escaped_eq_append`: **no escape makes up a text without percent signs**: what
  the written target begins with, the target begins with;
* `Target.isWritten_of_mem_escaped`: no backslash is left, no space and no control character below
  it;
* `Url.significant_of_isWritten`: a text without them is read as it stands.
-/

namespace Wayfarer

variable {charset : Charset} {c : Char} {cs : List Char}

/-! ### Texts of a charset -/

/-- The bytes of a charset can stand for a text. -/
def Charset.Holds : Charset → List Char → Prop
  | utf8, _ => True
  | latin1, cs => ∀ c ∈ cs, c.toNat < 256

namespace Charset

lemma Holds.subset {part : List Char} (holds : charset.Holds cs) (sub : part ⊆ cs) :
    charset.Holds part := by
  cases charset with
  | utf8 => trivial
  | latin1 => exact fun c mem => holds c (sub mem)

lemma Holds.head (holds : charset.Holds (c :: cs)) : charset.Holds [c] :=
  holds.subset (List.cons_subset_cons c (List.nil_subset cs))

lemma Holds.tail (holds : charset.Holds (c :: cs)) : charset.Holds cs :=
  holds.subset (List.subset_cons_self c cs)

end Charset

lemma trim_subset (p : Char → Bool) (cs : List Char) : trim p cs ⊆ cs := by
  intro c mem
  rw [trim, trimEnd, trimStart, List.mem_reverse] at mem
  have inner := (List.dropWhile_sublist p).subset mem
  rw [List.mem_reverse] at inner
  exact (List.dropWhile_sublist p).subset inner

namespace Target

/-- The text of a field value is one of the charset in which it is read. -/
lemma holds_decode (raw : Bytes) : (decode raw).2.Holds (decode raw).1 := by
  rw [decode]
  split
  · trivial
  · intro c mem
    obtain ⟨b, -, rfl⟩ := List.mem_map.mp mem
    have small : b.toNat < 256 := b.toNat_lt
    rw [Char.toNat_ofNat, if_pos (.inl (by omega))]
    exact small

/-! ### One character -/

/-- The bytes of a character begin with one beyond ASCII, or are the one that it is. -/
lemma exists_bytesIn (holds : charset.Holds [c]) :
    ∃ b bs, bytesIn charset [c] = b :: bs ∧
      (b < 0x80 → bs = [] ∧ Char.ofNat b.toNat = c) := by
  have ascii : c.toNat < 256 → Char.ofNat (UInt8.ofNat c.toNat).toNat = c := by
    intro small
    rw [UInt8.toNat_ofNat', Nat.mod_eq_of_lt small, Char.ofNat_toNat]
  cases charset with
  | latin1 => exact ⟨_, [], rfl, fun _ => ⟨rfl, ascii (holds c (List.mem_singleton.mpr rfl))⟩⟩
  | utf8 =>
      have bytes : bytesIn .utf8 [c] = String.utf8EncodeChar c := List.flatMap_singleton ..
      rw [bytes, String.utf8EncodeChar]
      split_ifs with one two three
      · exact ⟨_, [], rfl, fun _ => ⟨rfl, ascii (Nat.lt_of_le_of_lt one (by decide))⟩⟩
      · exact ⟨_, _, rfl, fun low => absurd low (Utf8.not_ofNat_lt (by omega) (by omega))⟩
      · exact ⟨_, _, rfl, fun low => absurd low (Utf8.not_ofNat_lt (by omega) (by omega))⟩
      · exact ⟨_, _, rfl, fun low => absurd low (Utf8.not_ofNat_lt (by omega) (by omega))⟩

/-- A character is written as itself, or with escapes from the first byte on. -/
lemma escaped_singleton_or (holds : charset.Holds [c]) :
    escaped [c] charset = [c] ∨ ∃ rest, escaped [c] charset = '%' :: rest := by
  obtain ⟨b, bs, bytes, plain⟩ := exists_bytesIn holds
  rw [escaped, bytes, Percent.encode, List.flatMap_cons, Percent.encodeByte]
  split_ifs with escapes
  · exact .inr ⟨_, rfl⟩
  · have low : b < 0x80 := by
      rw [Bool.or_eq_true, not_or, decide_eq_true_eq] at escapes
      exact UInt8.not_le.mp escapes.1
    obtain ⟨rfl, same⟩ := plain low
    rw [same]
    exact .inl rfl

/-! ### Whole texts -/

lemma escaped_cons (c : Char) (cs : List Char) (charset : Charset) :
    escaped (c :: cs) charset = escaped [c] charset ++ escaped cs charset := by
  cases charset <;> simp [escaped, bytesIn, Percent.encode, Utf8.encode, List.flatMap_append]

/-- What the written target begins with, the target begins with, unless it is an escape. -/
theorem exists_of_escaped_eq_append {text rest : List Char} (holds : charset.Holds cs)
    (free : '%' ∉ text) (h : escaped cs charset = text ++ rest) :
    ∃ tail, cs = text ++ tail ∧ escaped tail charset = rest := by
  induction text generalizing cs with
  | nil => exact ⟨cs, rfl, h⟩
  | cons d text ih =>
      obtain ⟨here, rest_free⟩ := not_or.mp (List.mem_cons.not.mp free)
      cases cs with
      | nil =>
          have empty : escaped [] charset = [] := by cases charset <;> rfl
          rw [empty] at h
          cases h
      | cons c cs =>
          rw [escaped_cons] at h
          rcases escaped_singleton_or holds.head with plain | ⟨more, coded⟩
          · rw [plain] at h
            obtain ⟨rfl, behind⟩ := List.cons_eq_cons.mp h
            obtain ⟨tail, rfl, written⟩ := ih holds.tail rest_free behind
            exact ⟨tail, rfl, written⟩
          · rw [coded] at h
            exact absurd (List.cons_eq_cons.mp h).1 here

/-- A target that begins with two slashes is written with two. -/
lemma exists_escaped_of_slashes (charset : Charset) (slashes : ['/', '/'] <+: cs) :
    ∃ rest, escaped cs charset = '/' :: '/' :: rest := by
  obtain ⟨tail, rfl⟩ := slashes
  have slash : escaped ['/'] charset = ['/'] := by cases charset <;> rfl
  refine ⟨escaped tail charset, ?_⟩
  rw [List.cons_append, List.cons_append, List.nil_append, escaped_cons,
    escaped_cons '/' tail, slash]
  rfl

/-! ### Characters that are left -/

/-- No backslash, no space and no control character below it. -/
def IsWritten (c : Char) : Prop :=
  0x20 < c.toNat ∧ c ≠ '\\'

instance : DecidablePred IsWritten := fun _ => inferInstanceAs (Decidable (_ ∧ _))

/-- The class of unsafe bytes leaves none of them in ASCII. -/
lemma isWritten_of_not_isUnsafe {n : ℕ} (ascii : n < 0x80)
    (safe : isUnsafe (UInt8.ofNat n) = false) : IsWritten (Char.ofNat n) := by
  have all : ∀ n < 0x80, isUnsafe (UInt8.ofNat n) = false → IsWritten (Char.ofNat n) := by
    decide +kernel
  exact all n ascii safe

lemma isWritten_of_mem_encodeByte {b : UInt8} (mem : c ∈ Percent.encodeByte isUnsafe b) :
    IsWritten c := by
  refine forall_mem_encodeByte (by decide) (by decide) (fun ascii safe => ?_) c mem
  refine isWritten_of_not_isUnsafe ascii ?_
  rw [UInt8.ofNat_toNat]
  exact safe

lemma isWritten_of_mem_escaped (mem : c ∈ escaped cs charset) : IsWritten c := by
  obtain ⟨b, -, here⟩ := List.mem_flatMap.mp mem
  exact isWritten_of_mem_encodeByte here

end Target

/-- A text of written characters is read as it stands. -/
lemma Url.significant_of_isWritten (written : ∀ c ∈ cs, Target.IsWritten c) :
    significant (String.ofList cs) = cs :=
  significant_eq_self fun c mem => (written c mem).1

end Wayfarer
