import Wayfarer.Text.Utf8

/-!
The base-64 alphabet.

* `Base64.encode`: three bytes as four characters, the last group padded with `=`;
* `Base64.encode_visible`: every character of the encoding is a visible ASCII character.
-/

namespace Wayfarer.Base64

/-- The character of a value below sixty-four. -/
def digit (n : Nat) : Char :=
  if n < 26 then Char.ofNat ('A'.toNat + n)
  else if n < 52 then Char.ofNat ('a'.toNat + (n - 26))
  else if n < 62 then Char.ofNat ('0'.toNat + (n - 52))
  else if n = 62 then '+' else '/'

/-- Three bytes at a time, as four characters. -/
def encode : Bytes → List Char
  | [] => []
  | [a] =>
      let n := a.toNat * 65536
      [digit (n / 262144), digit (n / 4096 % 64), '=', '=']
  | [a, b] =>
      let n := a.toNat * 65536 + b.toNat * 256
      [digit (n / 262144), digit (n / 4096 % 64), digit (n / 64 % 64), '=']
  | a :: b :: c :: rest =>
      let n := a.toNat * 65536 + b.toNat * 256 + c.toNat
      digit (n / 262144) :: digit (n / 4096 % 64) :: digit (n / 64 % 64) :: digit (n % 64) ::
        encode rest

/-! ### The alphabet -/

/-- A visible ASCII character. -/
def Visible (c : Char) : Prop :=
  32 < c.toNat ∧ c.toNat < 127

instance (c : Char) : Decidable (Visible c) :=
  inferInstanceAs (Decidable (_ ∧ _))

/-- The characters of small values are visible. -/
theorem visible_digit_of_lt : ∀ n, n < 64 → Visible (digit n) := by
  decide

/-- The alphabet is visible. -/
theorem visible_digit (n : Nat) : Visible (digit n) := by
  by_cases h : n < 64
  · exact visible_digit_of_lt n h
  · have h1 : ¬n < 26 := by omega
    have h2 : ¬n < 52 := by omega
    have h3 : ¬n < 62 := by omega
    have h4 : n ≠ 62 := by omega
    rw [digit, if_neg h1, if_neg h2, if_neg h3, if_neg h4]
    decide

/-- Every character of an encoding is visible. -/
theorem encode_visible (bs : Bytes) : ∀ c ∈ encode bs, Visible c := by
  have pad : Visible '=' := by decide
  fun_induction encode bs with
  | case1 => simp
  | case2 a n => simp [visible_digit, pad]
  | case3 a b n => simp [visible_digit, pad]
  | case4 a b c rest n ih => simpa [visible_digit] using ih

end Wayfarer.Base64
