import Wayfarer.Idna.Name
import Wayfarer.Proofs.Text.Pieces
import Wayfarer.Proofs.Text.Visible

/-!
The characters of domain names in ASCII.

* `Punycode.forall_mem_encode`: the form of a text has its ASCII characters, hyphens and digits;
* `Punycode.lt_of_mem_of_decode`: only an ASCII text is the form of another;
* `Idna.IsPlain`: the ASCII characters that names may have; `Idna.isPlain_of_read`: a label travels
  in them;
* `Idna.isPlain_of_toAscii`: **so does a whole name**.
-/

namespace Wayfarer

open Base64 (Visible)

variable {c : Char} {cs shown : List Char}

namespace Punycode

/-! ### Encoding -/

section

variable {P : Char → Prop} (digits : ∀ n < 36, P (digit n))

include digits

lemma forall_mem_writeNumber (bias k n : ℕ) : ∀ c ∈ writeNumber bias k n, P c := by
  fun_induction writeNumber bias k n with
  | case1 k n t small =>
      have bounds := threshold_bounds k bias
      simpa using digits n (by omega)
  | case2 k n t large ih =>
      have bounds := threshold_bounds k bias
      have rest : (n - t) % (36 - t) < 36 - t := Nat.mod_lt _ (by omega)
      rw [List.forall_mem_cons]
      exact ⟨digits _ (by omega), ih⟩

/-- What holds of digits holds of what is written for one value. -/
lemma forall_mem_writeValue {state : Cursor × List Char} (before : ∀ c ∈ state.2, P c) (m : ℕ) :
    ∀ c ∈ (writeValue cs state m).2, P c := by
  obtain ⟨cursor, out⟩ := state
  rw [writeValue]
  refine List.foldlRecOn (motive := fun state : Cursor × List Char => ∀ c ∈ state.2, P c)
    cs _ before ?_
  rintro ⟨cursor, out⟩ written x -
  dsimp only
  split_ifs
  · exact written
  · exact List.forall_mem_append.mpr ⟨written, forall_mem_writeNumber digits _ _ _⟩
  · exact written

/-- The form of a text has its ASCII characters, hyphens and digits. -/
lemma forall_mem_encode (hyphen : P '-') (basic : ∀ c ∈ cs, c.toNat < 128 → P c) :
    ∀ c ∈ encode cs, P c := by
  have front : ∀ c ∈ cs.filter (·.toNat < 128), P c := by
    intro c mem
    obtain ⟨inside, ascii⟩ := List.mem_filter.mp mem
    exact basic c inside (decide_eq_true_eq.mp ascii)
  rw [encode]
  refine List.forall_mem_append.mpr ⟨List.forall_mem_append.mpr ⟨front, ?_⟩, ?_⟩
  · split_ifs <;> simp [hyphen]
  · refine List.foldlRecOn (motive := fun state : Cursor × List Char => ∀ c ∈ state.2, P c)
      _ _ (List.forall_mem_nil _) ?_
    exact fun state written m _ => forall_mem_writeValue digits written m

end

/-! ### Decoding -/

lemma visible_of_digitValue {d : ℕ} (h : digitValue? c = some d) : Visible c := by
  refine visible_of_isAlphanum ?_
  rw [digitValue?] at h
  rw [Char.isAlphanum, Bool.or_eq_true]
  split_ifs at h with digit letter
  · exact .inr digit
  · exact .inl letter

/-- A number is read from visible digits. -/
lemma exists_of_readNumber {bias k weight n m : ℕ} {rest : List Char}
    (h : readNumber? bias k weight n cs = some (m, rest)) :
    ∃ front, cs = front ++ rest ∧ AllVisible front := by
  induction cs generalizing k weight n with
  | nil => cases h
  | cons c cs ih =>
      rw [readNumber?] at h
      obtain ⟨d, value, h⟩ := Option.bind_eq_some_iff.mp h
      dsimp only at h
      split_ifs at h with ends
      · cases h
        exact ⟨[c], rfl, by simpa using visible_of_digitValue value⟩
      · obtain ⟨front, rfl, visible⟩ := ih h
        exact ⟨c :: front, rfl, by simpa using ⟨visible_of_digitValue value, visible⟩⟩

lemma allVisible_of_decodeFrom {text : List Char} {value place bias : ℕ} {isFirst : Bool}
    (h : decodeFrom text value place bias isFirst cs = some shown) : AllVisible cs := by
  fun_induction decodeFrom text value place bias isFirst cs with
  | case1 text value place bias isFirst cs ends =>
      rw [List.isEmpty_iff.mp ends]
      exact allVisible_nil
  | case2 => cases h
  | case3 text value place bias isFirst cs _ delta rest reads _ _ _ _ ih =>
      obtain ⟨front, rfl, visible⟩ := exists_of_readNumber reads
      exact allVisible_append.mpr ⟨visible, ih h⟩
  | case4 => cases h

/-- What precedes the last hyphen of a form, if there is anything, precedes the hyphen and the
characters after it. -/
lemma eq_append_of_take_ne_nil {front digits : List Char}
    (after : digits = (cs.reverse.takeWhile (· ≠ '-')).reverse)
    (before : front = cs.take (cs.length - digits.length - 1)) (filled : front ≠ []) :
    cs = front ++ '-' :: digits := by
  have whole := List.takeWhile_append_dropWhile (p := (· ≠ '-')) (l := cs.reverse)
  cases ends : cs.reverse.dropWhile (· ≠ '-') with
  | nil =>
      rw [ends, List.append_nil] at whole
      rw [whole, List.reverse_reverse] at after
      rw [after, Nat.sub_self] at before
      exact absurd before filled
  | cons d rest =>
      have hyphen : d = '-' := by
        have first := List.head?_dropWhile_not (· ≠ '-') cs.reverse
        rw [ends] at first
        simpa using first
      rw [ends, hyphen] at whole
      have split : cs = rest.reverse ++ '-' :: digits :=
        calc cs = (cs.reverse.takeWhile (· ≠ '-') ++ '-' :: rest).reverse := by
              rw [whole, List.reverse_reverse]
          _ = rest.reverse ++ '-' :: digits := by simp [after]
      have place : cs.length - digits.length - 1 = rest.reverse.length := by
        rw [split, List.length_append, List.length_cons]
        omega
      have here : front = rest.reverse := by
        rw [before, place, split, List.take_left]
      rw [here]
      exact split

/-- Only an ASCII text is the form of another. -/
lemma lt_of_mem_of_decode (h : decode? cs = some shown) (mem : c ∈ cs) : c.toNat < 128 := by
  have ascii {ds : List Char} (visible : AllVisible ds) (mem : c ∈ ds) : c.toNat < 128 :=
    (visible c mem).2.trans (by decide)
  rw [decode?] at h
  split_ifs at h with basic empty
  · exact ascii (allVisible_of_decodeFrom h) mem
  · have filled := fun none => empty (List.isEmpty_iff.mpr none)
    rw [eq_append_of_take_ne_nil rfl rfl filled, List.mem_append, List.mem_cons] at mem
    rcases mem with front | rfl | behind
    · exact decide_eq_true_eq.mp (List.all_eq_true.mp basic c front)
    · decide
    · exact ascii (allVisible_of_decodeFrom h) behind

end Punycode

namespace Idna

/-! ### Labels and names -/

/-- The ASCII characters that names may have. -/
def IsPlain (c : Char) : Prop :=
  c.toNat < 128 ∧ isForbidden c = false

instance (c : Char) : Decidable (IsPlain c) :=
  inferInstanceAs (Decidable (_ ∧ _))

/-- A label travels in such characters. -/
lemma isPlain_of_read {label : Label} (h : Label.read? cs = some label) :
    ∀ c ∈ label.ascii, IsPlain c := by
  have all : mark.all (fun c => decide (IsPlain c)) = true := by decide
  have marks : ∀ c ∈ mark, IsPlain c := by
    simpa only [List.all_eq_true, decide_eq_true_eq] using all
  have digits : ∀ n < 36, IsPlain (Punycode.digit n) := by decide +kernel
  rw [Label.read?] at h
  by_cases forbidden : cs.any isForbidden = true
  · rw [if_pos forbidden] at h
    cases h
  rw [if_neg forbidden] at h
  have allowed : ∀ c ∈ cs, c.toNat < 128 → IsPlain c := by
    intro c mem ascii
    rw [Bool.not_eq_true, List.any_eq_false] at forbidden
    exact ⟨ascii, Bool.eq_false_iff.mpr (forbidden c mem)⟩
  split at h
  · next form found =>
      split at h
      · next shown decodes =>
          split_ifs at h
          cases h
          have ascii : ∀ c ∈ form, c.toNat < 128 :=
            fun c mem => Punycode.lt_of_mem_of_decode decodes mem
          obtain rfl := List.isPrefixOf?_eq_some_iff_append_eq.mp found
          refine List.forall_mem_append.mpr ⟨marks, fun c mem => ?_⟩
          exact allowed c (List.mem_append_right _ mem) (ascii c mem)
      · cases h
  · split_ifs at h with ascii
    · cases h
      exact fun c mem => allowed c mem (decide_eq_true_eq.mp (List.all_eq_true.mp ascii c mem))
    · cases h
      exact List.forall_mem_append.mpr
        ⟨marks, Punycode.forall_mem_encode digits (by decide) allowed⟩

/-- **A name in ASCII has such characters only.** -/
theorem isPlain_of_toAscii {bs : Bytes} (h : toAscii? bs = some cs) : ∀ c ∈ cs, IsPlain c := by
  rw [toAscii?] at h
  obtain ⟨text, -, h⟩ := Option.bind_eq_some_iff.mp h
  obtain ⟨composed, -, h⟩ := Option.bind_eq_some_iff.mp h
  obtain ⟨labels, reads, h⟩ := Option.bind_eq_some_iff.mp h
  split_ifs at h
  cases h
  have each : ∀ label ∈ labels, ∀ c ∈ label.ascii, IsPlain c := by
    intro label mem
    obtain ⟨text, -, read⟩ := exists_of_forall₂_right (mapM_eq_some_iff.mp reads) mem
    exact isPlain_of_read read
  have dot : ∀ c ∈ ['.'], IsPlain c := List.forall_mem_singleton.mpr (by decide)
  exact forall_mem_intercalate dot (List.forall_mem_map.mpr each)

end Idna

end Wayfarer
