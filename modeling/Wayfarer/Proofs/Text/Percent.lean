import Mathlib
import Wayfarer.Proofs.Text.Utf8
import Wayfarer.Text.Percent

/-!
Escapes and what they stand for.

* `Percent.pair?`: the byte that two hexadecimal digits at the front of a text write;
* `Percent.mem_decode`: a byte that is no part of an escape stands for itself;
* `Percent.decode_encode_of_percent`: **bytes are read back from their escapes**, if percent signs
  are escaped;
* `Percent.pair?_encode`: escapes neither make nor break such a pair;
* `Percent.decode_encode`: **bytes with further escapes stand for what they stood for before**, also
  where a percent sign stands in front of an escape.
-/

namespace Wayfarer

namespace Percent

variable {p : UInt8 → Bool} {a b v : UInt8} {bs rest : Bytes}

/-! ### Digits -/

/-- The byte that two hexadecimal digits at the front of a text write, and what follows them. -/
def pair? : Bytes → Option (UInt8 × Bytes)
  | b :: c :: rest => do
      let hi ← digit? b
      let lo ← digit? c
      some (UInt8.ofNat (hi * 16 + lo), rest)
  | _ => none

lemma pair?_of_not_digit (bare : digit? b = none) (bs : Bytes) : pair? (b :: bs) = none := by
  cases bs <;> simp [pair?, bare]

lemma length_of_pair? (found : pair? bs = some (v, rest)) : rest.length < bs.length := by
  match bs with
  | [] => cases found
  | [_] => cases found
  | b :: c :: tail =>
      simp only [pair?, Option.bind_eq_bind, Option.bind_eq_some_iff, Option.some.injEq,
        Prod.mk.injEq] at found
      obtain ⟨_, _, _, _, _, rfl⟩ := found
      simp

/-- What is no digit stands behind the pair. -/
lemma mem_of_pair? (found : pair? bs = some (v, rest)) (bare : digit? a = none) (mem : a ∈ bs) :
    a ∈ rest := by
  match bs with
  | [] => cases found
  | [_] => cases found
  | b :: c :: tail =>
      simp only [pair?, Option.bind_eq_bind, Option.bind_eq_some_iff, Option.some.injEq,
        Prod.mk.injEq] at found
      obtain ⟨hi, first, lo, second, -, rfl⟩ := found
      rcases List.mem_cons.mp mem with rfl | mem
      · cases bare.symm.trans first
      · rcases List.mem_cons.mp mem with rfl | mem
        · cases bare.symm.trans second
        · exact mem

/-- The byte of a hexadecimal digit. -/
def hexByte (n : ℕ) : UInt8 :=
  UInt8.ofNat (hexDigit n).toNat

lemma digit?_hexByte {n : ℕ} (small : n < 16) : digit? (hexByte n) = some n := by
  have digits : ∀ n < 16, digit? (hexByte n) = some n := by decide
  exact digits n small

lemma encodeChar_hexDigit {n : ℕ} (small : n < 16) :
    String.utf8EncodeChar (hexDigit n) = [hexByte n] := by
  have digits : ∀ n < 16, String.utf8EncodeChar (hexDigit n) = [hexByte n] := by decide
  exact digits n small

/-! ### Reading escapes -/

/-- A byte other than a percent sign stands for itself. -/
lemma decode_cons (plain : a ≠ 0x25) (bs : Bytes) : decode (a :: bs) = a :: decode bs := by
  match bs with
  | [] => simp [decode]
  | [_] => simp [decode]
  | _ :: _ :: _ => rw [decode, if_neg plain]

/-- A percent sign stands for what the pair behind it writes, or for itself. -/
lemma decode_percent (bs : Bytes) :
    decode (0x25 :: bs) =
      match pair? bs with
      | some (v, rest) => v :: decode rest
      | none => 0x25 :: decode bs := by
  match bs with
  | [] => simp [decode, pair?]
  | [_] => simp [decode, pair?]
  | b :: c :: rest =>
      rw [decode, if_pos rfl, pair?]
      cases digit? b <;> cases digit? c <;> rfl

lemma decode_pair (found : pair? bs = some (v, rest)) : decode (0x25 :: bs) = v :: decode rest := by
  rw [decode_percent, found]

lemma decode_of_not_pair (bare : pair? bs = none) : decode (0x25 :: bs) = 0x25 :: decode bs := by
  rw [decode_percent, bare]

/-- A byte that is no part of an escape stands for itself. -/
lemma mem_decode (plain : a ≠ 0x25) (bare : digit? a = none) (mem : a ∈ bs) : a ∈ decode bs := by
  -- the induction is on the length, since an escape takes three bytes
  induction shorter : bs.length using Nat.strong_induction_on generalizing bs with
  | _ length ih =>
      cases bs with
      | nil => cases mem
      | cons b bs =>
          have less : bs.length < length := shorter ▸ Nat.lt_succ_self _
          by_cases percent : b = 0x25
          · subst percent
            have behind := (List.mem_cons.mp mem).resolve_left plain
            cases found : pair? bs with
            | none =>
                rw [decode_of_not_pair found]
                exact List.mem_cons_of_mem _ (ih _ less behind rfl)
            | some pair =>
                obtain ⟨v, rest⟩ := pair
                have fewer := (length_of_pair? found).trans less
                rw [decode_pair found]
                refine List.mem_cons_of_mem _ (ih _ fewer ?_ rfl)
                exact mem_of_pair? found bare behind
          · rw [decode_cons percent]
            rcases List.mem_cons.mp mem with rfl | behind
            · exact List.mem_cons_self
            · exact List.mem_cons_of_mem _ (ih _ less behind rfl)

/-! ### Writing escapes -/

/-- Whether a byte is written as an escape. -/
def escapes (p : UInt8 → Bool) (b : UInt8) : Bool :=
  0x80 ≤ b || p b

lemma lt_of_not_escapes (plain : escapes p b = false) : b < 0x80 := by
  rw [escapes, Bool.or_eq_false_iff, decide_eq_false_iff_not] at plain
  exact UInt8.not_le.mp plain.1

lemma encodeByte_of_escapes (coded : escapes p b = true) : encodeByte p b = escape b :=
  if_pos coded

lemma encodeByte_of_not_escapes (plain : escapes p b = false) :
    encodeByte p b = [Char.ofNat b.toNat] :=
  if_neg (Bool.not_eq_true _ ▸ plain)

lemma utf8_encode_cons (p : UInt8 → Bool) (b : UInt8) (bs : Bytes) :
    Utf8.encode (encode p (b :: bs)) =
      Utf8.encode (encodeByte p b) ++ Utf8.encode (encode p bs) := by
  rw [encode, List.flatMap_cons, Utf8.encode_append]
  rfl

lemma utf8_encode_of_escapes (coded : escapes p b = true) (bs : Bytes) :
    Utf8.encode (encode p (b :: bs)) =
      0x25 :: hexByte (b.toNat / 16) :: hexByte (b.toNat % 16) :: Utf8.encode (encode p bs) := by
  have small : b.toNat < 256 := b.toNat_lt
  have percent : String.utf8EncodeChar '%' = [0x25] := by decide
  rw [utf8_encode_cons, encodeByte_of_escapes coded]
  simp [Utf8.encode, escape, percent, encodeChar_hexDigit (show b.toNat / 16 < 16 by omega),
    encodeChar_hexDigit (show b.toNat % 16 < 16 by omega)]

lemma utf8_encode_of_not_escapes (plain : escapes p b = false) (bs : Bytes) :
    Utf8.encode (encode p (b :: bs)) = b :: Utf8.encode (encode p bs) := by
  have byte : Utf8.encode [Char.ofNat b.toNat] = [b] := by
    rw [Utf8.encode, List.flatMap_singleton, Utf8.encodeChar_of_ascii (lt_of_not_escapes plain)]
  rw [utf8_encode_cons, encodeByte_of_not_escapes plain, byte, List.singleton_append]

/-- The pair of an escape writes the byte that is escaped. -/
lemma pair?_hexByte (b : UInt8) (bs : Bytes) :
    pair? (hexByte (b.toNat / 16) :: hexByte (b.toNat % 16) :: bs) = some (b, bs) := by
  have small : b.toNat < 256 := b.toNat_lt
  have value : b.toNat / 16 * 16 + b.toNat % 16 = b.toNat := Nat.div_add_mod' _ _
  rw [pair?, digit?_hexByte (by omega), digit?_hexByte (by omega), Option.bind_eq_bind,
    Option.bind_some, Option.bind_some, value, UInt8.ofNat_toNat]

/-- **Bytes are read back from their escapes**, if percent signs are escaped. -/
theorem decode_encode_of_percent (percent : p 0x25 = true) (bs : Bytes) :
    decode (Utf8.encode (encode p bs)) = bs := by
  induction bs with
  | nil => simp [encode, Utf8.encode, decode]
  | cons b bs ih =>
      cases coded : escapes p b with
      | true => rw [utf8_encode_of_escapes coded, decode_pair (pair?_hexByte b _), ih]
      | false =>
          have plain : b ≠ 0x25 := by
            rintro rfl
            rw [escapes, percent, Bool.or_true] at coded
            cases coded
          rw [utf8_encode_of_not_escapes coded, decode_cons plain, ih]

/-! ### Escapes among escapes -/

/-- A class of bytes without those of which escapes are made. -/
structure SparesEscapes (p : UInt8 → Bool) : Prop where
  percent : p 0x25 = false
  digit : ∀ b, (digit? b).isSome = true → p b = false

lemma lt_of_digit? (digit : (digit? b).isSome = true) : b < 0x80 := by
  revert digit
  exact forall_byte (P := fun b => (digit? b).isSome = true → b < 0x80) (by decide +kernel) b

/-- A digit is written as it stands. -/
lemma SparesEscapes.not_escapes (spares : SparesEscapes p) (digit : (digit? b).isSome = true) :
    escapes p b = false := by
  rw [escapes, spares.digit b digit, Bool.or_false, decide_eq_false_iff_not]
  exact UInt8.not_le.mpr (lt_of_digit? digit)

/-- So a byte that is escaped is no digit. -/
lemma SparesEscapes.digit?_eq_none (spares : SparesEscapes p) (coded : escapes p b = true) :
    digit? b = none := by
  by_contra digit
  rw [spares.not_escapes (Option.isSome_iff_ne_none.mpr digit)] at coded
  cases coded

/-- **Escapes neither make nor break a pair of digits**: what stands in front of an escape meets a
percent sign, which is no digit. -/
lemma SparesEscapes.pair?_encode (spares : SparesEscapes p) (bs : Bytes) :
    pair? (Utf8.encode (encode p bs)) =
      (pair? bs).map fun found => (found.1, Utf8.encode (encode p found.2)) := by
  have percent : digit? 0x25 = none := by decide
  cases bs with
  | nil => rfl
  | cons b bs =>
      cases first : escapes p b with
      | true =>
          rw [utf8_encode_of_escapes first, pair?_of_not_digit percent,
            pair?_of_not_digit (spares.digit?_eq_none first)]
          rfl
      | false =>
          rw [utf8_encode_of_not_escapes first]
          cases bs with
          | nil => rfl
          | cons c bs =>
              cases second : escapes p c with
              | true =>
                  rw [utf8_encode_of_escapes second, pair?, pair?, percent,
                    spares.digit?_eq_none second]
                  cases digit? b <;> rfl
              | false =>
                  rw [utf8_encode_of_not_escapes second, pair?, pair?]
                  cases digit? b <;> cases digit? c <;> rfl

/-- **Bytes with further escapes stand for what they stood for before.** -/
theorem SparesEscapes.decode_encode (spares : SparesEscapes p) (bs : Bytes) :
    decode (Utf8.encode (encode p bs)) = decode bs := by
  -- the induction is on the length, since a pair of digits takes two bytes
  induction shorter : bs.length using Nat.strong_induction_on generalizing bs with
  | _ length ih =>
      cases bs with
      | nil => rfl
      | cons b bs =>
          have less : bs.length < length := shorter ▸ Nat.lt_succ_self _
          cases first : escapes p b with
          | true =>
              have plain : b ≠ 0x25 := by
                rintro rfl
                rw [escapes, spares.percent] at first
                cases first
              rw [utf8_encode_of_escapes first, decode_pair (pair?_hexByte b _), decode_cons plain,
                ih _ less bs rfl]
          | false =>
              rw [utf8_encode_of_not_escapes first]
              by_cases percent : b = 0x25
              · subst percent
                have pairs := spares.pair?_encode bs
                cases found : pair? bs with
                | none =>
                    rw [found] at pairs
                    rw [decode_of_not_pair pairs, decode_of_not_pair found, ih _ less bs rfl]
                | some pair =>
                    obtain ⟨v, rest⟩ := pair
                    rw [found] at pairs
                    have fewer := (length_of_pair? found).trans less
                    rw [decode_pair pairs, decode_pair found, ih _ fewer rest rfl]
              · rw [decode_cons percent, decode_cons percent, ih _ less bs rfl]

end Percent

end Wayfarer
