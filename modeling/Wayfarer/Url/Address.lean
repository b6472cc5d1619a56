import Wayfarer.Text.Letters

/-!
Numeric host addresses.

* `Ipv4.read?`, `Ipv4.text`: an address of up to four parts, each decimal, octal or hexadecimal,
  and its four decimal parts;
* `Ipv4.isMeant`: a host whose last label is a number is meant as an address;
* `Ipv6.read?`, `Ipv6.text`: eight pieces, a run of zeros at most once left out, and the last two
  pieces possibly as a decimal address.
-/

namespace Wayfarer

namespace Ipv4

/-! ### Four parts -/

/-- The number that a part of an address writes: hexadecimal after `0x`, octal after `0`. A part
with a base but no digits is zero. -/
def readPart? (cs : List Char) : Option Nat :=
  let read (base : Nat) (digits : List Char) : Option Nat := do
    let values ← digits.mapM hexValue?
    if values.all (· < base) then some (readDigits base values) else none
  match cs with
  | [] => none
  | '0' :: 'x' :: digits => read 16 digits
  | '0' :: 'X' :: digits => read 16 digits
  | '0' :: d :: digits => read 8 (d :: digits)
  | _ => read 10 cs

/-- The labels of a host, without the empty one that a final dot leaves. -/
def labels (cs : List Char) : List (List Char) :=
  let parts := splitAtEvery (· = '.') cs
  if parts.length ≠ 1 ∧ parts.getLast? = some [] then parts.dropLast else parts

/-- Whether the last label of a host is a number, so that the host is meant as an address. -/
def isMeant (cs : List Char) : Bool :=
  match (labels cs).getLast? with
  | none => false
  | some part => (!part.isEmpty && part.all Char.isDigit) || (readPart? part).isSome

/-- The value of the parts `ns` when the last one fills all places that are left. -/
def value? (ns : List Nat) : Option Nat :=
  match ns.getLast? with
  | none => none
  | some last =>
      let front := ns.dropLast
      if 3 < front.length ∨ front.any (255 < ·) ∨ Nat.pow 256 (4 - front.length) ≤ last then none
      else some (readDigits 256 front * Nat.pow 256 (4 - front.length) + last)

/-- The address that a host writes. -/
def read? (cs : List Char) : Option Nat := do
  let ns ← (labels cs).mapM readPart?
  value? ns

/-- The four decimal parts of an address. -/
def text (address : Nat) : String :=
  let part (k : Nat) : String := toString (address / Nat.pow 256 k % 256)
  part 3 ++ "." ++ part 2 ++ "." ++ part 1 ++ "." ++ part 0

end Ipv4

namespace Ipv6

/-! ### Eight pieces -/

/-- The value of a decimal part of at most 255 without zeros in front. -/
def byte? (cs : List Char) : Option Nat :=
  if cs.isEmpty ∨ !cs.all Char.isDigit ∨ (1 < cs.length ∧ cs.head? = some '0') then none
  else
    let n := readDigits 10 (cs.map digitValue)
    if n ≤ 255 then some n else none

/-- The two pieces of a decimal address. -/
def decimalPieces? (cs : List Char) : Option (List Nat) := do
  match ← (splitAtEvery (· = '.') cs).mapM byte? with
  | [a, b, c, d] => some [a * 256 + b, c * 256 + d]
  | _ => none

/-- The value of a piece of one to four hexadecimal digits. -/
def piece? (cs : List Char) : Option Nat :=
  if cs.isEmpty ∨ 4 < cs.length then none else (cs.mapM hexValue?).map (readDigits 16)

/-- The pieces of a text with single colons between them; only the last may be a decimal address,
and that only where `decimalLast` holds. -/
def pieces? (decimalLast : Bool) : List (List Char) → Option (List Nat)
  | [] => some []
  | [part] =>
      if decimalLast && part.contains '.' then decimalPieces? part else (piece? part).map ([·])
  | part :: parts => do some ((← piece? part) :: (← pieces? decimalLast parts))

/-- The pieces of a text, none if it is empty. -/
def side? (decimalLast : Bool) (cs : List Char) : Option (List Nat) :=
  if cs.isEmpty then some [] else pieces? decimalLast (splitAtEvery (· = ':') cs)

/-- The address that a text between brackets writes. -/
def read? (cs : List Char) : Option (List Nat) :=
  match splitAtFirst [':', ':'] cs with
  | none => do
      let pieces ← side? true cs
      if pieces.length = 8 then some pieces else none
  | some (before, after) => do
      let front ← side? false before
      let back ← side? true after
      if front.length + back.length ≤ 7 then
        some (front ++ List.replicate (8 - front.length - back.length) 0 ++ back)
      else none

/-- The length of the run of zeros that starts at each place. -/
def zeroRuns : List Nat → List Nat
  | [] => []
  | n :: ns =>
      let runs := zeroRuns ns
      (if n = 0 then runs.headD 0 + 1 else 0) :: runs

/-- Pieces in hexadecimal digits with colons between them. -/
def joined (ns : List Nat) : String :=
  ":".intercalate (ns.map fun n => String.ofList (Nat.toDigits 16 n))

/-- The pieces of an address; the first of its longest runs of zeros, if longer than one, is left
out. -/
def text (pieces : List Nat) : String :=
  let runs := zeroRuns pieces
  let longest := runs.foldl max 0
  if longest < 2 then joined pieces
  else
    let start := runs.findIdx (· = longest)
    joined (pieces.take start) ++ "::" ++ joined (pieces.drop (start + longest))

end Ipv6

end Wayfarer
