/-!
The encoding of texts as bytes.

* `Bytes`: a byte string;
* `Utf8.encode`, `utf8`: the bytes of a text;
* `Utf8.Pending.feed`: one byte of a decoder that remembers the unfinished character;
* `Utf8.scan`: the characters of a byte string, with a gap for each ill-formed stretch; a
  stretch is the longest that some well-formed character begins with;
* `Utf8.decode?`: the text of a byte string without gaps;
* `Utf8.decodeLossy`: the text with every gap replaced by U+FFFD.
-/

namespace Wayfarer

/-- A byte string. -/
abbrev Bytes := List UInt8

namespace Utf8

/-- The bytes of a text. -/
def encode (cs : List Char) : Bytes :=
  cs.flatMap String.utf8EncodeChar

/-- What a decoder has read of a character that is not finished. -/
inductive Pending where
  /-- Nothing: the next byte begins a character. -/
  | idle
  /-- So many further bytes are owed, the next of them between `low` and `high`; `value` is
  what the bytes read so far contribute. -/
  | owed (more : Nat) (low high : UInt8) (value : Nat)
deriving Repr, DecidableEq

/-- The decoder after the first byte of a character. -/
def Pending.first (b : UInt8) : Pending × List (Option Char) :=
  if b < 0x80 then (.idle, [some (Char.ofNat b.toNat)])
  else if 0xC2 ≤ b ∧ b ≤ 0xDF then (.owed 1 0x80 0xBF (b.toNat - 0xC0), [])
  else if b = 0xE0 then (.owed 2 0xA0 0xBF 0, [])
  else if b = 0xED then (.owed 2 0x80 0x9F 0xD, [])
  else if 0xE1 ≤ b ∧ b ≤ 0xEF then (.owed 2 0x80 0xBF (b.toNat - 0xE0), [])
  else if b = 0xF0 then (.owed 3 0x90 0xBF 0, [])
  else if 0xF1 ≤ b ∧ b ≤ 0xF3 then (.owed 3 0x80 0xBF (b.toNat - 0xF0), [])
  else if b = 0xF4 then (.owed 3 0x80 0x8F 4, [])
  else (.idle, [none])

/-- The decoder after one more byte, with the characters and gaps that this byte settles. -/
def Pending.feed : Pending → UInt8 → Pending × List (Option Char)
  | .idle, b => Pending.first b
  | .owed more low high value, b =>
      if low ≤ b ∧ b ≤ high then
        let value := value * 64 + (b.toNat - 0x80)
        if more ≤ 1 then (.idle, [some (Char.ofNat value)])
        else (.owed (more - 1) 0x80 0xBF value, [])
      else
        let (next, out) := Pending.first b
        (next, none :: out)

/-- The gap that an unfinished character leaves at the end. -/
def Pending.close : Pending → List (Option Char)
  | .idle => []
  | .owed .. => [none]

/-- The characters and gaps of a byte string, from the middle of a character. -/
def scanFrom (p : Pending) : Bytes → List (Option Char)
  | [] => p.close
  | b :: bs =>
      let (next, out) := p.feed b
      out ++ scanFrom next bs

/-- The characters of a byte string, with `none` for each ill-formed stretch. -/
def scan (bs : Bytes) : List (Option Char) :=
  scanFrom .idle bs

/-- The text of a well-formed byte string. -/
def decode? (bs : Bytes) : Option (List Char) :=
  let cs := scan bs
  if cs.all Option.isSome then some (cs.filterMap id) else none

/-- The text of a byte string, each ill-formed stretch read as U+FFFD. -/
def decodeLossy (bs : Bytes) : List Char :=
  (scan bs).map (·.getD '\uFFFD')

end Utf8

/-- The bytes of a text. -/
def utf8 (s : String) : Bytes :=
  Utf8.encode s.toList

end Wayfarer
