import Wayfarer.Proofs.Refresh.Grammar
import Wayfarer.Proofs.Text.Visible

/-!
Refresh directives written and read again.

* `Refresh.rendered`: a directive as it is written, with a separator and the key;
* `Refresh.Spelled`: a target stands alone or between two quotes of a kind;
* `Refresh.kept`: a target without the quotes at its end and the blanks before them;
* `Refresh.parse?_rendered`: **of either spelling the kept target is read**, which is all of the
  target unless it ends with a quote;
* `Refresh.last_quote_lost`: a target that does loses it.
-/

namespace Wayfarer.Refresh

/-- A directive as it is written. -/
def rendered (delay : List Char) (separator : Char) (text : List Char) : String :=
  String.ofList (delay ++ separator :: 'u' :: 'r' :: 'l' :: '=' :: text)

/-- A target is written alone or between two quotes of a kind. -/
inductive Spelled (target : List Char) : List Char → Prop
  | alone : Spelled target target
  | between {q : Char} (quote : isQuote q = true) : Spelled target (q :: (target ++ [q]))

/-- A target without the quotes at its end, and then without the blanks before them. -/
def kept (target : List Char) : List Char :=
  trimEnd isBlank (trimEnd isQuote target)

/-- What a target has to be for its spellings to start where it does: it is not empty, has no blanks
at its ends, and no quote at its start. -/
structure Writable (target : List Char) : Prop where
  filled : target ≠ []
  firm : Firm isBlank target
  start : ∀ c ∈ target.head?, isQuote c = false

variable {delay target text : List Char} {separator c : Char}

/-! ### Characters -/

lemma not_isBlank_of_isDelayChar (inside : isDelayChar c = true) : isBlank c = false := by
  rw [isDelayChar, Bool.or_eq_true, decide_eq_true_eq] at inside
  refine not_isBlank_of_visible ?_
  rcases inside with digit | rfl
  · rw [Char.isDigit, Bool.and_eq_true, decide_eq_true_eq, decide_eq_true_eq] at digit
    have low : 48 ≤ c.toNat := UInt32.le_iff_toNat_le.mp digit.1
    have high : c.toNat ≤ 57 := UInt32.le_iff_toNat_le.mp digit.2
    exact ⟨by omega, by omega⟩
  · decide

lemma not_isBlank_of_isQuote (quote : isQuote c = true) : isBlank c = false := by
  rw [isQuote, Bool.or_eq_true, decide_eq_true_eq, decide_eq_true_eq] at quote
  rcases quote with rfl | rfl <;> decide

lemma not_isDelayChar_of_isSeparator (mark : isSeparator c = true) : isDelayChar c = false := by
  rw [isSeparator, Bool.or_eq_true, decide_eq_true_eq, decide_eq_true_eq] at mark
  rcases mark with rfl | rfl <;> decide

/-! ### What is kept of a target -/

namespace Writable

/-- The first character is kept, and so the target is not lost. -/
lemma exists_kept (writable : Writable target) :
    ∃ c rest, target = c :: rest ∧ isBlank c = false ∧ isQuote c = false ∧
      kept target = c :: (rest.rdropWhile isQuote).rdropWhile isBlank := by
  cases target with
  | nil => exact absurd rfl writable.filled
  | cons c rest =>
      have solid : isBlank c = false := writable.firm.head c rfl
      have other : isQuote c = false := writable.start c rfl
      refine ⟨c, rest, rfl, solid, other, ?_⟩
      calc kept (c :: rest) = ((c :: rest).rdropWhile isQuote).rdropWhile isBlank := rfl
        _ = c :: (rest.rdropWhile isQuote).rdropWhile isBlank := by
          rw [rdropWhile_cons other, rdropWhile_cons solid]

/-- A target is kept just when it does not end with a quote. -/
lemma kept_eq_self_iff (writable : Writable target) :
    kept target = target ↔ ∀ c ∈ target.getLast?, isQuote c = false := by
  -- it has no blanks at its end, so that all of it is kept just when no quote goes
  have whole : target.rdropWhile isBlank = target :=
    rdropWhile_eq_self_iff_getLast?.mpr writable.firm.last
  rw [← rdropWhile_eq_self_iff_getLast?]
  constructor
  · intro same
    have shorter : target <+: target.rdropWhile isQuote := by
      conv_lhs => rw [← same]
      exact List.rdropWhile_prefix isBlank (target.rdropWhile isQuote)
    exact (List.rdropWhile_prefix isQuote target).eq_of_length_le shorter.length_le
  · intro same
    calc kept target = (target.rdropWhile isQuote).rdropWhile isBlank := rfl
      _ = target := by rw [same, whole]

/-- Neither spelling has blanks at its ends, -/
lemma firm_of_spelled (writable : Writable target) (spelled : Spelled target text) :
    Firm isBlank text := by
  cases spelled with
  | alone => exact writable.firm
  | @between q quote =>
      have solid := not_isBlank_of_isQuote quote
      constructor
      · rintro c ⟨⟩
        exact solid
      · rw [← List.cons_append, List.getLast?_concat]
        rintro c ⟨⟩
        exact solid

/-- and without the quotes at its ends the same is left of both. -/
lemma stripped_of_spelled (writable : Writable target) (spelled : Spelled target text) :
    stripped isQuote text = target.rdropWhile isQuote := by
  cases spelled with
  | alone => exact stripped_of_head writable.start
  | @between q quote =>
      have quotes : ∀ c ∈ [q], isQuote c = true := by simpa using quote
      have start : ∀ c ∈ (target ++ [q]).head?, isQuote c = false := by
        rw [List.head?_append_of_ne_nil _ writable.filled]
        exact writable.start
      calc stripped isQuote (q :: (target ++ [q])) = stripped isQuote (target ++ [q]) := by
            rw [stripped, List.dropWhile_cons_of_pos quote, stripped]
        _ = (target ++ [q]).rdropWhile isQuote := stripped_of_head start
        _ = target.rdropWhile isQuote := rdropWhile_append_of_pos quotes target

/-- Of either spelling what is kept of the target is left. -/
lemma isBare_kept (writable : Writable target) (spelled : Spelled target text) :
    IsBare text (kept target) := by
  have start : ∀ c ∈ (target.rdropWhile isQuote).head?, isBlank c = false := by
    obtain ⟨c, rest, rfl, solid, other, -⟩ := writable.exists_kept
    rw [rdropWhile_cons other]
    rintro c ⟨⟩
    exact solid
  refine bare_eq_iff.mp ?_
  calc bare text = stripped isBlank (stripped isQuote (stripped isBlank text)) := rfl
    _ = stripped isBlank (stripped isQuote text) := by
      rw [stripped_of_firm (writable.firm_of_spelled spelled)]
    _ = stripped isBlank (target.rdropWhile isQuote) := by
      rw [writable.stripped_of_spelled spelled]
    _ = kept target := stripped_of_head start

end Writable

/-! ### What is read -/

/-- How a written directive splits. -/
def directive (pointed : IsPointed delay) (mark : isSeparator separator = true)
    (text : List Char) :
    Directive (delay ++ separator :: 'u' :: 'r' :: 'l' :: '=' :: text) where
  delay := delay
  gap := []
  mark := [separator]
  rest := 'u' :: 'r' :: 'l' :: '=' :: text
  text := text
  split := rfl
  pointed := pointed
  longest := by
    rintro c ⟨⟩
    exact not_isDelayChar_of_isSeparator mark
  blank := nofun
  marked := .one mark nofun
  firm := by
    rintro c ⟨⟩
    decide
  named := Or.inl ⟨['u', 'r', 'l'], [], rfl, by decide, nofun⟩

/-- It has no blanks at its ends. -/
lemma leaves_rendered (pointed : IsPointed delay) (filled : text ≠ []) (firm : Firm isBlank text) :
    Leaves isBlank (rendered delay separator text).toList
      (delay ++ separator :: 'u' :: 'r' :: 'l' :: '=' :: text) := by
  rw [rendered, String.toList_ofList]
  refine ⟨⟨[], [], (List.append_nil _).symm, nofun, nofun⟩, ?_, ?_⟩
  · intro c head
    obtain ⟨d, mem, -⟩ := pointed.digit
    rw [List.head?_append_of_ne_nil _ (List.ne_nil_of_mem mem)] at head
    have inside := pointed.chars c (List.mem_of_mem_head? head)
    exact not_isBlank_of_isDelayChar (by simpa [isDelayChar] using inside)
  · have behind : separator :: 'u' :: 'r' :: 'l' :: '=' :: text =
        [separator, 'u', 'r', 'l', '='] ++ text := rfl
    rw [behind, ← List.append_assoc, List.getLast?_append_of_ne_nil _ filled]
    exact firm.last

lemma Spelled.ne_nil (spelled : Spelled target text) (filled : target ≠ []) : text ≠ [] := by
  cases spelled with
  | alone => exact filled
  | between => exact List.cons_ne_nil _ _

/-- **A written directive is read again.** Its delay is rounded correctly, and of either spelling of
the target it says to go to what is kept of it: to the target itself just when that does not end
with a quote. -/
theorem parse?_rendered (pointed : IsPointed delay) (mark : isSeparator separator = true)
    (writable : Writable target) (spelled : Spelled target text) :
    ∃ v : Binary64, v.Approximates (pointValue delay) ∧
      parse? (rendered delay separator text) = some ⟨v, String.ofList (kept target)⟩ ∧
      (kept target = target ↔ ∀ c ∈ target.getLast?, isQuote c = false) := by
  have left : IsBare text (kept target) := writable.isBare_kept spelled
  have ends : Leaves isBlank (rendered delay separator text).toList _ :=
    leaves_rendered pointed (spelled.ne_nil writable.filled) (writable.firm_of_spelled spelled)
  have some_char : String.ofList (kept target) ≠ "" := by
    obtain ⟨c, rest, -, -, -, whole⟩ := writable.exists_kept
    rw [whole]
    exact fun empty => List.cons_ne_nil _ _ (String.ofList_eq_empty_iff.mp empty)
  obtain ⟨v, near, reads⟩ := parse?_of_directive ends (directive pointed mark text)
    (String.toList_ofList ▸ left) some_char
  exact ⟨v, near, reads, writable.kept_eq_self_iff⟩

/-- A target between quotes is read without them, -/
theorem target_between_quotes :
    IsPointed "0.5".toList ∧ isSeparator ',' = true ∧ Writable "/next".toList ∧
      Spelled "/next".toList "'/next'".toList ∧
      ∃ v : Binary64, v.Approximates (pointValue "0.5".toList) ∧
        parse? "0.5,url='/next'" = some ⟨v, "/next"⟩ := by
  have pointed : IsPointed "0.5".toList := ⟨by simp, by simp, by decide +kernel⟩
  have writable : Writable "/next".toList :=
    ⟨by decide +kernel, by decide +kernel, by simp [isQuote]⟩
  have spelled : Spelled "/next".toList "'/next'".toList :=
    .between (by decide : isQuote '\'' = true)
  obtain ⟨v, near, reads, whole⟩ :=
    parse?_rendered pointed (by decide : isSeparator ',' = true) writable spelled
  have same : kept "/next".toList = "/next".toList := whole.mpr (by simp [isQuote])
  rw [same] at reads
  exact ⟨pointed, by decide, writable, spelled, v, near, reads⟩

/-- and one that ends with a quote is read without it, alone as well as between others. -/
theorem last_quote_lost :
    Writable "/s?q='a'".toList ∧
      rendered "0".toList ';' "/s?q='a'".toList = "0;url=/s?q='a'" ∧
      parse? "0;url=/s?q='a'" = some ⟨⟨0⟩, "/s?q='a"⟩ ∧
      parse? "0;url=\"/s?q='a'\"" = some ⟨⟨0⟩, "/s?q='a"⟩ ∧
      ("/s?q='a" : String) ≠ "/s?q='a'" :=
  ⟨⟨by decide +kernel, by decide +kernel, by simp [isQuote]⟩, by decide +kernel,
    by decide +kernel, by decide +kernel, by decide +kernel⟩

end Wayfarer.Refresh
