import Mathlib
import Wayfarer.Text.Utf8

/-!
Texts and their bytes.

* `Utf8.further`: the last bytes of a character, with six bits of its number in each;
* `Utf8.Leads`: the byte with which a character beyond ASCII begins, and how many bytes follow it;
* `Utf8.scan_encodeChar`, `Utf8.exists_of_scan_cons`: a decoder reads a character from its bytes,
  and from no others;
* `Utf8.decodeLossy_encode_append`, `Utf8.exists_of_decodeLossy_append`: what is read in front
  stands there as its encoding, whatever follows;
* `Utf8.decode?_eq_some_iff`: **a byte string has a text exactly if it is the encoding of it**.
-/

namespace Wayfarer

/-- What holds of all bytes, checked value by value. -/
lemma forall_byte {P : UInt8 → Prop} (all : ∀ n < 256, P (UInt8.ofNat n)) (b : UInt8) : P b := by
  have here := all b.toNat b.toNat_lt
  rwa [UInt8.ofNat_toNat] at here

/-- What holds of all characters of ASCII, checked value by value. -/
lemma forall_ascii {P : Char → Prop} (all : ∀ n < 0x80, P (Char.ofNat n)) {c : Char}
    (ascii : c.toNat < 0x80) : P c := by
  have here := all c.toNat ascii
  rwa [Char.ofNat_toNat] at here

namespace Utf8

variable {b : UInt8} {bs : Bytes} {c : Char} {cs : List Char} {k n : ℕ}

/-! ### The bytes of a character -/

/-- The last `k` bytes of the character of number `n`. -/
def further : ℕ → ℕ → Bytes
  | 0, _ => []
  | k + 1, n => UInt8.ofNat (n / 64 ^ k % 64 + 0x80) :: further k n

/-- A byte with which the character of number `n` begins, if `k + 1` further ones follow. -/
inductive Leads (b : UInt8) : ℕ → ℕ → Prop
  | two {n : ℕ} (least : 0x80 ≤ n) (most : n < 0x800) (byte : b.toNat = n / 64 + 0xC0) :
      Leads b 0 n
  | three {n : ℕ} (least : 0x800 ≤ n) (most : n < 0x10000) (valid : n < 0xD800 ∨ 0xDFFF < n)
      (byte : b.toNat = n / 4096 + 0xE0) : Leads b 1 n
  | four {n : ℕ} (least : 0x10000 ≤ n) (most : n < 0x110000)
      (byte : b.toNat = n / 262144 + 0xF0) : Leads b 2 n

lemma toNat_further (k n : ℕ) :
    (UInt8.ofNat (n / 64 ^ k % 64 + 0x80)).toNat = n / 64 ^ k % 64 + 0x80 := by
  rw [UInt8.toNat_ofNat']
  omega

lemma Leads.isValidChar (leads : Leads b k n) : n.isValidChar := by
  cases leads with
  | two least most => exact .inl (by omega)
  | three least most valid => exact valid.imp_right fun high => ⟨high, by omega⟩
  | four least most => exact .inr ⟨by omega, most⟩

/-- A character is encoded as the byte that leads it and its further ones. -/
lemma encodeChar_of_leads (leads : Leads b k n) :
    String.utf8EncodeChar (Char.ofNat n) = b :: further (k + 1) n := by
  have value : (Char.ofNat n).val.toNat = n := by
    have number := Char.toNat_ofNat n
    rwa [if_pos leads.isValidChar] at number
  rw [String.utf8EncodeChar, value]
  cases leads with
  | two least most byte =>
      rw [if_neg (by omega), if_pos (by omega), Nat.mod_eq_of_lt (by omega), ← byte]
      simp [further]
  | three least most valid byte =>
      rw [if_neg (by omega), if_neg (by omega), if_pos (by omega),
        Nat.mod_eq_of_lt (a := n / 4096) (by omega), ← byte]
      simp [further]
  | four least most byte =>
      rw [if_neg (by omega), if_neg (by omega), if_neg (by omega),
        Nat.mod_eq_of_lt (a := n / 262144) (by omega), ← byte]
      simp [further]

/-- Every character beyond ASCII has a byte that leads it. -/
lemma exists_leads (beyond : 0x80 ≤ c.toNat) : ∃ b k, Leads b k c.toNat := by
  have valid : c.toNat.isValidChar := c.valid
  have whole : ∀ n < 256, (UInt8.ofNat n).toNat = n := fun n => UInt8.toNat_ofNat_of_lt'
  by_cases two : c.toNat < 0x800
  · exact ⟨_, _, .two beyond two (whole _ (by omega))⟩
  by_cases three : c.toNat < 0x10000
  · exact ⟨_, _, .three (by omega) three (valid.imp_right (·.1)) (whole _ (by omega))⟩
  · have most : c.toNat < 0x110000 := by
      rcases valid with low | ⟨-, high⟩ <;> omega
    exact ⟨_, _, .four (by omega) most (whole _ (by omega))⟩

/-- A character of ASCII is encoded as the byte of its number. -/
lemma encodeChar_of_lt (ascii : c.toNat < 0x80) :
    String.utf8EncodeChar c = [UInt8.ofNat c.toNat] := by
  have low : c.val.toNat ≤ 127 := Nat.le_of_lt_succ ascii
  rw [String.utf8EncodeChar, if_pos low]
  rfl

lemma encode_cons (c : Char) (cs : List Char) :
    encode (c :: cs) = String.utf8EncodeChar c ++ encode cs :=
  List.flatMap_cons

lemma encode_append (cs ds : List Char) : encode (cs ++ ds) = encode cs ++ encode ds :=
  List.flatMap_append

/-- A text of ASCII takes one byte for each character. -/
lemma length_encode_of_lt (ascii : ∀ c ∈ cs, c.toNat < 0x80) : (encode cs).length = cs.length := by
  induction cs with
  | nil => rfl
  | cons c cs ih =>
      obtain ⟨here, behind⟩ := List.forall_mem_cons.mp ascii
      rw [encode_cons, encodeChar_of_lt here, List.singleton_append, List.length_cons,
        List.length_cons, ih behind]

lemma toNat_ofNat_byte (b : UInt8) : (Char.ofNat b.toNat).toNat = b.toNat := by
  have small : b.toNat < 256 := b.toNat_lt
  rw [Char.toNat_ofNat, if_pos (.inl (by omega))]

lemma encodeChar_of_ascii (ascii : b < 0x80) :
    String.utf8EncodeChar (Char.ofNat b.toNat) = [b] := by
  rw [encodeChar_of_lt, toNat_ofNat_byte, UInt8.ofNat_toNat]
  rw [toNat_ofNat_byte]
  exact UInt8.lt_iff_toNat_lt.mp ascii

/-! ### The first byte -/

/-- The decoder after a first byte, by the number of the byte. -/
lemma first_eq (b : UInt8) : Pending.first b =
    if b.toNat < 128 then (.idle, [some (Char.ofNat b.toNat)])
    else if 194 ≤ b.toNat ∧ b.toNat ≤ 223 then (.owed 1 0x80 0xBF (b.toNat - 0xC0), [])
    else if b.toNat = 224 then (.owed 2 0xA0 0xBF 0, [])
    else if b.toNat = 237 then (.owed 2 0x80 0x9F 0xD, [])
    else if 225 ≤ b.toNat ∧ b.toNat ≤ 239 then (.owed 2 0x80 0xBF (b.toNat - 0xE0), [])
    else if b.toNat = 240 then (.owed 3 0x90 0xBF 0, [])
    else if 241 ≤ b.toNat ∧ b.toNat ≤ 243 then (.owed 3 0x80 0xBF (b.toNat - 0xF0), [])
    else if b.toNat = 244 then (.owed 3 0x80 0x8F 4, [])
    else (.idle, [none]) := by
  simp only [Pending.first, UInt8.lt_iff_toNat_lt, UInt8.le_iff_toNat_le, ← UInt8.toNat_inj]
  rfl

/-- What the decoder asks of the byte behind the first one: bounds between which its first further
byte lies. -/
structure Within (low high : UInt8) (k n : ℕ) : Prop where
  least : low.toNat ≤ n / 64 ^ k % 64 + 0x80
  most : n / 64 ^ k % 64 + 0x80 ≤ high.toNat

lemma within_all (k n : ℕ) : Within 0x80 0xBF k n := by
  constructor
  · exact Nat.le_add_left _ _
  · have small := Nat.mod_lt (n / 64 ^ k) (show 0 < 64 by decide)
    change n / 64 ^ k % 64 + 128 ≤ 191
    omega

/-- A byte that leads a character makes the decoder wait for the further ones. -/
lemma first_of_leads (leads : Leads b k n) : ∃ low high,
    Pending.first b = (.owed (k + 1) low high (n / 64 ^ (k + 1)), []) ∧ Within low high k n := by
  rw [first_eq]
  cases leads with
  | two least most byte =>
      rw [if_neg (by omega), if_pos (by omega), byte, Nat.add_sub_cancel]
      exact ⟨_, _, rfl, within_all 0 n⟩
  | three least most valid byte =>
      rw [if_neg (by omega), if_neg (by omega)]
      by_cases low : b.toNat = 224
      · rw [if_pos low]
        refine ⟨_, _, by rw [Nat.div_eq_of_lt (by omega)], ?_, (within_all 1 n).most⟩
        change 160 ≤ n / 64 % 64 + 128
        omega
      rw [if_neg low]
      by_cases middle : b.toNat = 237
      · rw [if_pos middle]
        refine ⟨_, _, by rw [show n / 64 ^ 2 = 0xD by omega], (within_all 1 n).least, ?_⟩
        change n / 64 % 64 + 128 ≤ 159
        omega
      · rw [if_neg middle, if_pos (by omega), byte, Nat.add_sub_cancel]
        exact ⟨_, _, rfl, within_all 1 n⟩
  | four least most byte =>
      rw [if_neg (by omega), if_neg (by omega), if_neg (by omega), if_neg (by omega),
        if_neg (by omega)]
      by_cases low : b.toNat = 240
      · rw [if_pos low]
        refine ⟨_, _, by rw [Nat.div_eq_of_lt (by omega)], ?_, (within_all 2 n).most⟩
        change 144 ≤ n / 4096 % 64 + 128
        omega
      rw [if_neg low]
      by_cases middle : b.toNat ≤ 243
      · rw [if_pos (by omega), byte, Nat.add_sub_cancel]
        exact ⟨_, _, rfl, within_all 2 n⟩
      · rw [if_neg (by omega), if_pos (by omega)]
        refine ⟨_, _, by rw [show n / 64 ^ 3 = 4 by omega], (within_all 2 n).least, ?_⟩
        change n / 4096 % 64 + 128 ≤ 143
        omega

/-- A decoder that waits for further bytes has read one that leads a character with them. -/
lemma leads_of_first {more value : ℕ} {low high : UInt8} {out : List (Option Char)}
    (waits : Pending.first b = (.owed more low high value, out)) :
    out = [] ∧ 0x80 ≤ low.toNat ∧ high.toNat ≤ 0xBF ∧ ∃ k, more = k + 1 ∧
      ∀ n, n / 64 ^ (k + 1) = value → Within low high k n → Leads b k n := by
  rw [first_eq] at waits
  split_ifs at waits with _ two low' middle three low'' four high' <;> cases waits
  · refine ⟨rfl, by decide, by decide, 0, rfl, fun n same _ => ?_⟩
    exact .two (by omega) (by omega) (by omega)
  · refine ⟨rfl, by decide, by decide, 1, rfl, fun n same within => ?_⟩
    have least : 160 ≤ n / 64 % 64 + 128 := within.least
    exact .three (by omega) (by omega) (by omega) (by omega)
  · refine ⟨rfl, by decide, by decide, 1, rfl, fun n same within => ?_⟩
    have most : n / 64 % 64 + 128 ≤ 159 := within.most
    exact .three (by omega) (by omega) (by omega) (by omega)
  · refine ⟨rfl, by decide, by decide, 1, rfl, fun n same _ => ?_⟩
    exact .three (by omega) (by omega) (by omega) (by omega)
  · refine ⟨rfl, by decide, by decide, 2, rfl, fun n same within => ?_⟩
    have least : 144 ≤ n / 4096 % 64 + 128 := within.least
    exact .four (by omega) (by omega) (by omega)
  · refine ⟨rfl, by decide, by decide, 2, rfl, fun n same _ => ?_⟩
    exact .four (by omega) (by omega) (by omega)
  · refine ⟨rfl, by decide, by decide, 2, rfl, fun n same within => ?_⟩
    have most : n / 4096 % 64 + 128 ≤ 143 := within.most
    exact .four (by omega) (by omega) (by omega)

/-- A decoder that does not wait, and has read no character, has come upon a gap. -/
lemma eq_of_first_idle {out : List (Option Char)} (beyond : ¬b < 0x80)
    (idle : Pending.first b = (.idle, out)) : out = [none] := by
  rw [Pending.first, if_neg beyond] at idle
  split_ifs at idle <;> cases idle
  rfl

/-! ### The further bytes -/

lemma further_succ (k n : ℕ) :
    further (k + 1) n = UInt8.ofNat (n / 64 ^ k % 64 + 0x80) :: further k n :=
  rfl

/-- One further byte, where it is the last one and where it is not. -/
lemma feed_owed {value : ℕ} {low high : UInt8} (least : low.toNat ≤ b.toNat)
    (most : b.toNat ≤ high.toNat) :
    Pending.feed (.owed (k + 1) low high value) b =
      if k = 0 then (.idle, [some (Char.ofNat (value * 64 + (b.toNat - 0x80)))])
      else (.owed k 0x80 0xBF (value * 64 + (b.toNat - 0x80)), []) := by
  rw [Pending.feed, if_pos ⟨UInt8.le_iff_toNat_le.mpr least, UInt8.le_iff_toNat_le.mpr most⟩]
  cases k <;> simp

/-- Six more bits of a number. -/
lemma div_mul_add_mod (k n : ℕ) : n / 64 ^ (k + 1) * 64 + n / 64 ^ k % 64 = n / 64 ^ k := by
  rw [pow_succ, ← Nat.div_div_eq_div_mul]
  exact Nat.div_add_mod' _ _

/-- The first of the further bytes of a character adds six bits. -/
lemma feed_of_within {low high : UInt8} (within : Within low high k n) :
    Pending.feed (.owed (k + 1) low high (n / 64 ^ (k + 1)))
        (UInt8.ofNat (n / 64 ^ k % 64 + 0x80)) =
      if k = 0 then (.idle, [some (Char.ofNat (n / 64 ^ k))])
      else (.owed k 0x80 0xBF (n / 64 ^ k), []) := by
  have byte := toNat_further k n
  rw [feed_owed, byte, Nat.add_sub_cancel, div_mul_add_mod]
  · rw [byte]
    exact within.least
  · rw [byte]
    exact within.most

/-- A decoder that waits for the further bytes of a character reads the character from them. -/
lemma scanFrom_further {low high : UInt8} (within : Within low high k n) (rest : Bytes) :
    scanFrom (.owed (k + 1) low high (n / 64 ^ (k + 1))) (further (k + 1) n ++ rest) =
      some (Char.ofNat n) :: scan rest := by
  induction k generalizing low high with
  | zero =>
      rw [further_succ, List.cons_append, scanFrom, feed_of_within within, if_pos rfl, pow_zero,
        Nat.div_one]
      rfl
  | succ k ih =>
      rw [further_succ, List.cons_append, scanFrom, feed_of_within within,
        if_neg k.succ_ne_zero]
      exact ih (within_all k n)

/-- A byte outside the bounds leaves a gap. -/
lemma between_of_scanFrom {value : ℕ} {low high : UInt8}
    (solid : (scanFrom (.owed k low high value) (b :: bs)).head? ≠ some none) :
    low.toNat ≤ b.toNat ∧ b.toNat ≤ high.toNat := by
  rw [scanFrom, Pending.feed] at solid
  by_cases between : low ≤ b ∧ b ≤ high
  · exact ⟨UInt8.le_iff_toNat_le.mp between.1, UInt8.le_iff_toNat_le.mp between.2⟩
  · rw [if_neg between] at solid
    simp at solid

/-- A decoder that waits goes on without a gap only from the further bytes of a character. -/
lemma exists_of_scanFrom {value : ℕ} {low high : UInt8} (least : 0x80 ≤ low.toNat)
    (most : high.toNat ≤ 0xBF)
    (solid : (scanFrom (.owed (k + 1) low high value) bs).head? ≠ some none) :
    ∃ n rest, bs = further (k + 1) n ++ rest ∧ n / 64 ^ (k + 1) = value ∧
      Within low high k n := by
  induction k generalizing low high value bs with
  | zero =>
      cases bs with
      | nil => exact absurd rfl solid
      | cons b bs =>
          obtain ⟨above, below⟩ := between_of_scanFrom solid
          have bits : (value * 64 + (b.toNat - 0x80)) / 64 ^ 0 % 64 + 0x80 = b.toNat := by omega
          refine ⟨value * 64 + (b.toNat - 0x80), bs, ?_, by omega, ?_, ?_⟩
          · rw [further_succ, bits, UInt8.ofNat_toNat]
            rfl
          · rwa [bits]
          · rwa [bits]
  | succ k ih =>
      cases bs with
      | nil => exact absurd rfl solid
      | cons b bs =>
          obtain ⟨above, below⟩ := between_of_scanFrom solid
          rw [scanFrom, feed_owed above below, if_neg k.succ_ne_zero] at solid
          obtain ⟨n, rest, rfl, number, -⟩ := ih (by decide) (by decide) solid
          have split := div_mul_add_mod (k + 1) n
          have bits : n / 64 ^ (k + 1) % 64 + 0x80 = b.toNat := by omega
          refine ⟨n, rest, ?_, by omega, ?_, ?_⟩
          · rw [further_succ (k + 1), bits, UInt8.ofNat_toNat]
            rfl
          · rwa [bits]
          · rwa [bits]

/-! ### Whole texts -/

lemma scan_of_ascii (ascii : b < 0x80) (rest : Bytes) :
    scan (b :: rest) = some (Char.ofNat b.toNat) :: scan rest := by
  rw [scan, scanFrom, Pending.feed, Pending.first, if_pos ascii]
  rfl

lemma scan_of_leads (leads : Leads b k n) (rest : Bytes) :
    scan (b :: further (k + 1) n ++ rest) = some (Char.ofNat n) :: scan rest := by
  obtain ⟨low, high, waits, within⟩ := first_of_leads leads
  rw [List.cons_append, scan, scanFrom, Pending.feed, waits]
  exact scanFrom_further within rest

/-- A decoder reads a character from its bytes. -/
lemma scan_encodeChar (c : Char) (rest : Bytes) :
    scan (String.utf8EncodeChar c ++ rest) = some c :: scan rest := by
  by_cases beyond : 0x80 ≤ c.toNat
  · obtain ⟨b, k, leads⟩ := exists_leads beyond
    have bytes := encodeChar_of_leads leads
    have read := scan_of_leads leads rest
    rw [Char.ofNat_toNat] at bytes read
    rw [bytes, read]
  · have low : c.toNat < 0x80 := Nat.not_le.mp beyond
    have number : (UInt8.ofNat c.toNat).toNat = c.toNat :=
      UInt8.toNat_ofNat_of_lt' (low.trans (by decide))
    have ascii : UInt8.ofNat c.toNat < 0x80 := by
      rw [UInt8.lt_iff_toNat_lt, number]
      exact low
    rw [encodeChar_of_lt low, List.singleton_append, scan_of_ascii ascii, number, Char.ofNat_toNat]

/-- It goes on without a gap only from the bytes of a character. -/
lemma exists_of_scan (solid : (scan (b :: bs)).head? ≠ some none) :
    ∃ c rest, b :: bs = String.utf8EncodeChar c ++ rest := by
  by_cases ascii : b < 0x80
  · exact ⟨_, bs, by rw [encodeChar_of_ascii ascii]; rfl⟩
  · rw [scan, scanFrom, Pending.feed] at solid
    cases first : Pending.first b with
    | mk pending out =>
        rw [first] at solid
        cases pending with
        | idle =>
            obtain rfl := eq_of_first_idle ascii first
            exact absurd rfl solid
        | owed more low high value =>
            obtain ⟨rfl, least, most, k, rfl, leads⟩ := leads_of_first first
            obtain ⟨n, rest, rfl, number, within⟩ := exists_of_scanFrom least most solid
            refine ⟨Char.ofNat n, rest, ?_⟩
            rw [encodeChar_of_leads (leads n number within)]
            rfl

/-- A character that is read stands in front with its bytes. -/
lemma exists_of_scan_cons {read : List (Option Char)} (reads : scan bs = some c :: read) :
    ∃ rest, bs = String.utf8EncodeChar c ++ rest ∧ scan rest = read := by
  cases bs with
  | nil => cases reads
  | cons b bs =>
      have solid : (scan (b :: bs)).head? ≠ some none := by
        rw [reads]
        simp
      obtain ⟨d, rest, split⟩ := exists_of_scan solid
      rw [split, scan_encodeChar] at reads
      cases reads
      exact ⟨rest, split, rfl⟩

/-- The text of an encoding is read from it without gaps, whatever follows. -/
lemma scan_encode_append (cs : List Char) (rest : Bytes) :
    scan (encode cs ++ rest) = cs.map some ++ scan rest := by
  induction cs with
  | nil => rfl
  | cons c cs ih =>
      rw [encode_cons, List.append_assoc, scan_encodeChar, ih, List.map_cons, List.cons_append]

lemma scan_encode (cs : List Char) : scan (encode cs) = cs.map some := by
  have alone := scan_encode_append cs []
  rwa [List.append_nil, show scan [] = [] from rfl, List.append_nil] at alone

/-- A text is read from its encoding with no character replaced, whatever follows. -/
lemma decodeLossy_encode_append (cs : List Char) (rest : Bytes) :
    decodeLossy (encode cs ++ rest) = cs ++ decodeLossy rest := by
  rw [decodeLossy, scan_encode_append, List.map_append, List.map_map]
  congr 1
  exact List.map_id cs

lemma decodeLossy_encode (cs : List Char) : decodeLossy (encode cs) = cs := by
  rw [decodeLossy, scan_encode, List.map_map]
  exact List.map_id cs

/-- What is read in front of a text, with no character replaced, stands there as its encoding. -/
lemma exists_of_decodeLossy_append {ds : List Char} (solid : '\uFFFD' ∉ cs)
    (reads : decodeLossy bs = cs ++ ds) : ∃ rest, bs = encode cs ++ rest := by
  induction cs generalizing bs with
  | nil => exact ⟨bs, rfl⟩
  | cons c cs ih =>
      rw [List.mem_cons, not_or] at solid
      obtain ⟨here, behind⟩ := solid
      obtain ⟨item, items, scanned, shown, others⟩ := List.map_eq_cons_iff.mp reads
      -- a gap would be shown as the character that the text does not have
      cases item with
      | none => exact absurd shown here
      | some d =>
          obtain rfl : d = c := shown
          obtain ⟨rest, rfl, scanned'⟩ := exists_of_scan_cons scanned
          rw [← scanned'] at others
          obtain ⟨rest', rfl⟩ := ih behind others
          exact ⟨rest', by rw [encode_cons, List.append_assoc]⟩

/-- A byte string that is read without gaps is the encoding of a text. -/
lemma exists_encode_of_scan (whole : (scan bs).all Option.isSome = true) :
    ∃ cs, encode cs = bs := by
  -- the induction is on the length, since a character may have several bytes
  induction shorter : bs.length using Nat.strong_induction_on generalizing bs with
  | _ length ih =>
      cases bs with
      | nil => exact ⟨[], rfl⟩
      | cons b bs =>
          have solid : (scan (b :: bs)).head? ≠ some none := by
            intro gap
            have filled := List.all_eq_true.mp whole none (List.mem_of_mem_head? gap)
            cases filled
          obtain ⟨c, rest, split⟩ := exists_of_scan solid
          rw [split, scan_encodeChar, List.all_cons, Bool.and_eq_true] at whole
          have filled := List.length_pos_iff.mpr (String.utf8EncodeChar_ne_nil (c := c))
          have less : rest.length < length := by
            rw [← shorter, split, List.length_append]
            omega
          obtain ⟨cs, bytes⟩ := ih _ less whole.2 rfl
          exact ⟨c :: cs, by rw [encode_cons, bytes, split]⟩

/-- **A byte string has a text exactly if it is the encoding of it.** -/
theorem decode?_eq_some_iff : decode? bs = some cs ↔ encode cs = bs := by
  have text (ds : List Char) : decode? (encode ds) = some ds := by
    rw [decode?, scan_encode]
    simp
  constructor
  · intro reads
    have whole : (scan bs).all Option.isSome = true := by
      by_contra gap
      rw [decode?, if_neg gap] at reads
      cases reads
    obtain ⟨ds, rfl⟩ := exists_encode_of_scan whole
    rw [text ds] at reads
    cases reads
    rfl
  · rintro rfl
    exact text cs

end Utf8

end Wayfarer
