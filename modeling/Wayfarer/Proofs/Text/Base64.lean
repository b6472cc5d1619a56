import Mathlib.Tactic
import Wayfarer.Text.Base64

/-!
Texts in base 64 read back.

* `Base64.value?`: the value of a character of the alphabet;
* `Base64.decode?`: the bytes that four characters at a time write, the last of them possibly pads;
* `Base64.decode?_encode`: **bytes are read back from their encoding**.
-/

namespace Wayfarer.Base64

/-! ### Reading -/

/-- The value of a character of the alphabet. -/
def value? (c : Char) : Option ℕ :=
  if c.isUpper then some (c.toNat - 'A'.toNat)
  else if c.isLower then some (c.toNat - 'a'.toNat + 26)
  else if c.isDigit then some (c.toNat - '0'.toNat + 52)
  else if c = '+' then some 62
  else if c = '/' then some 63
  else none

/-- The first byte of a group. -/
def first (a b : ℕ) : UInt8 :=
  UInt8.ofNat (a * 4 + b / 16)

/-- The second byte of a group. -/
def second (b c : ℕ) : UInt8 :=
  UInt8.ofNat (b % 16 * 16 + c / 4)

/-- The third byte of a group. -/
def third (c d : ℕ) : UInt8 :=
  UInt8.ofNat (c % 4 * 64 + d)

/-- The bytes that four characters at a time write. Only the last group may end in one or two pads,
and then the bits that no byte takes are zero. -/
def decode? : List Char → Option Bytes
  | [] => some []
  | x :: y :: z :: w :: rest =>
      match value? x, value? y, value? z, value? w with
      | some a, some b, some c, some d =>
          (decode? rest).map ([first a b, second b c, third c d] ++ ·)
      | some a, some b, some c, none =>
          if w = '=' ∧ rest = [] ∧ c % 4 = 0 then some [first a b, second b c] else none
      | some a, some b, none, none =>
          if z = '=' ∧ w = '=' ∧ rest = [] ∧ b % 16 = 0 then some [first a b] else none
      | _, _, _, _ => none
  | _ => none

/-! ### Reading back -/

lemma value?_digit {n : ℕ} (small : n < 64) : value? (digit n) = some n := by
  have digits : ∀ n < 64, value? (digit n) = some n := by decide
  exact digits n small

lemma value?_pad : value? '=' = none := by decide

/-- Of the four digits of a number of twenty-four bits, the first two write its first byte, -/
lemma first_digits {a : UInt8} {n : ℕ} (h : n / 65536 = a.toNat) :
    first (n / 262144) (n / 4096 % 64) = a := by
  rw [first, show n / 262144 * 4 + n / 4096 % 64 / 16 = a.toNat by omega, UInt8.ofNat_toNat]

/-- the second and the third write the second, -/
lemma second_digits {b : UInt8} {n : ℕ} (h : n / 256 % 256 = b.toNat) :
    second (n / 4096 % 64) (n / 64 % 64) = b := by
  rw [second, show n / 4096 % 64 % 16 * 16 + n / 64 % 64 / 4 = b.toNat by omega,
    UInt8.ofNat_toNat]

/-- and the last two write the third. -/
lemma third_digits {c : UInt8} {n : ℕ} (h : n % 256 = c.toNat) :
    third (n / 64 % 64) (n % 64) = c := by
  rw [third, show n / 64 % 64 % 4 * 64 + n % 64 = c.toNat by omega, UInt8.ofNat_toNat]

/-- **Bytes are read back from their encoding.** -/
theorem decode?_encode (bs : Bytes) : decode? (encode bs) = some bs := by
  fun_induction encode bs with
  | case1 => rfl
  | case2 a n =>
      have bound := a.toNat_lt
      rw [decode?, value?_digit (by omega), value?_digit (by omega), value?_pad]
      simp only [true_and]
      rw [if_pos (by omega), first_digits (a := a) (by omega)]
  | case3 a b n =>
      have bound := a.toNat_lt
      have bound' := b.toNat_lt
      rw [decode?, value?_digit (by omega), value?_digit (by omega), value?_digit (by omega),
        value?_pad]
      simp only [true_and]
      rw [if_pos (by omega), first_digits (a := a) (by omega), second_digits (b := b) (by omega)]
  | case4 a b c rest n ih =>
      have bound := a.toNat_lt
      have bound' := b.toNat_lt
      have bound'' := c.toNat_lt
      rw [decode?, value?_digit (by omega), value?_digit (by omega), value?_digit (by omega),
        value?_digit (by omega)]
      dsimp only
      rw [ih, first_digits (a := a) (by omega), second_digits (b := b) (by omega),
        third_digits (c := c) (by omega)]
      rfl

end Wayfarer.Base64
