import Wayfarer.Text.Letters
import Wayfarer.Text.Utf8

/-!
Percent escapes.

* `Percent.encode`: a byte string written in ASCII, the bytes of a class as `%XY`;
* `Percent.decode`: the bytes that a text with escapes stands for.

A `%` that two hexadecimal digits do not follow stands for itself.
-/

namespace Wayfarer.Percent

/-- The escape of one byte. -/
def escape (b : UInt8) : List Char :=
  ['%', hexDigit (b.toNat / 16), hexDigit (b.toNat % 16)]

/-- A byte, escaped if it is not ASCII or belongs to the class `p`. -/
def encodeByte (p : UInt8 → Bool) (b : UInt8) : List Char :=
  if 0x80 ≤ b || p b then escape b else [Char.ofNat b.toNat]

/-- A byte string in ASCII, with the bytes of the class `p` escaped. -/
def encode (p : UInt8 → Bool) (bs : Bytes) : List Char :=
  bs.flatMap (encodeByte p)

/-- The value of a byte as a hexadecimal digit. -/
def digit? (b : UInt8) : Option Nat :=
  hexValue? (Char.ofNat b.toNat)

/-- The bytes that a text with escapes stands for. -/
def decode : Bytes → Bytes
  | [] => []
  | [a] => [a]
  | [a, b] => [a, b]
  | a :: b :: c :: rest =>
      if a = 0x25 then
        match digit? b, digit? c with
        | some hi, some lo => UInt8.ofNat (hi * 16 + lo) :: decode rest
        | _, _ => a :: decode (b :: c :: rest)
      else a :: decode (b :: c :: rest)
termination_by bs => bs.length

end Wayfarer.Percent
