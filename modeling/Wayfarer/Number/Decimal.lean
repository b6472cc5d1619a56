import Wayfarer.Number.Binary64
import Wayfarer.Text.Letters

/-!
Decimals, read and written.

* `Decimal`: a whole number of powers of ten;
* `Decimal.toBinary64`: the nearest number of double precision;
* `Decimal.ofPoint?`: digits with at most one point among them;
* `Decimal.readNumber?`: a number as texts write it, with sign, point and exponent;
* `Decimal.shortest`: the fewest digits that read back as a number, and of those the nearest;
* `Binary64.plainText`, `Binary64.scaledText`: two ways to write a number down.
-/

namespace Wayfarer

/-- The value `digits * 10 ^ exponent`, negated if `negative`. -/
structure Decimal where
  negative : Bool
  digits : Nat
  exponent : Int
deriving Repr, DecidableEq

namespace Decimal

/-- The number of decimal digits of a number. -/
def length (n : Nat) : Nat :=
  (Nat.toDigits 10 n).length

/-! ### Reading -/

/-- The nearest number of double precision. What is at least `10 ^ 310` is infinite and what is
below `10 ^ -330` is zero, whatever the digits. -/
def toBinary64 (d : Decimal) : Binary64 :=
  let top : Int := length d.digits + d.exponent
  if d.digits = 0 ∨ top < -330 then Binary64.ofMagnitude d.negative 0
  else if 310 < top then Binary64.ofMagnitude d.negative Binary64.infinite
  else Binary64.ofFraction d.negative
    (d.digits * Nat.pow 10 d.exponent.toNat) (Nat.pow 10 (-d.exponent).toNat)

/-- Digits with at most one point, at least one digit among them. -/
def ofPoint? (cs : List Char) : Option Decimal :=
  let whole := cs.takeWhile Char.isDigit
  let rest := cs.dropWhile Char.isDigit
  let decimal (part : List Char) : Option Decimal :=
    if part.all Char.isDigit && !(whole.isEmpty && part.isEmpty) then
      some ⟨false, readDigits 10 ((whole ++ part).map digitValue), -part.length⟩
    else none
  match rest with
  | [] => decimal []
  | '.' :: part => decimal part
  | _ => none

/-- A text without its sign, and whether the sign was a minus. -/
def splitSign : List Char → Bool × List Char
  | '-' :: cs => (true, cs)
  | '+' :: cs => (false, cs)
  | cs => (false, cs)

/-- An integer: an optional sign and digits. -/
def readInt? (cs : List Char) : Option Int :=
  let (negative, ds) := splitSign cs
  if ds.isEmpty || !ds.all Char.isDigit then none
  else
    let n : Int := readDigits 10 (ds.map digitValue)
    some (if negative then -n else n)

/-- A number of double precision as a text: an optional sign, digits with at most one point and an
optional exponent, or the name of an infinity or of a NaN in any case. -/
def readNumber? (s : String) : Option Binary64 :=
  let (negative, cs) := splitSign s.toList
  let word := lowered (String.ofList cs)
  if word = "inf" ∨ word = "infinity" then some (Binary64.ofMagnitude negative Binary64.infinite)
  else if word = "nan" then some (Binary64.ofMagnitude negative Binary64.nan.magnitude)
  else
    let isMark := fun c : Char => c = 'e' || c = 'E'
    match ofPoint? (cs.takeWhile (!isMark ·)), cs.dropWhile (!isMark ·) with
    | some d, [] => some (toBinary64 { d with negative })
    | some d, _ :: e =>
        (readInt? e).map fun n => toBinary64 { d with negative, exponent := d.exponent + n }
    | none, _ => none

/-! ### The fewest digits -/

/-- The power of ten that a positive fraction reaches: `10 ^ k ≤ num / den < 10 ^ (k + 1)`. -/
def decade (num den : Nat) : Int :=
  let lift := if num < den then length (den / num) else 0
  (length (num * Nat.pow 10 lift / den) : Int) - 1 - lift

/-- Whether a decimal reads back as the finite number of that magnitude. -/
def readsBack (magnitude : Nat) (d : Decimal) : Bool :=
  (toBinary64 d).magnitude = magnitude

/-- The neighbours of `num / den` among the multiples of `10 ^ k`, the nearer first. -/
def neighbours (num den : Nat) (k : Int) : List Decimal :=
  let num := num * Nat.pow 10 (-k).toNat
  let den := den * Nat.pow 10 k.toNat
  let below := num / den
  let nearer : Decimal := ⟨false, Binary64.roundHalfEven num den, k⟩
  let other := if nearer.digits = below then below + 1 else below
  [nearer, ⟨false, other, k⟩]

/-- The decimal without zeros at its end; `fuel` bounds their number. -/
def dropZeros : Nat → Decimal → Decimal
  | 0, d => d
  | fuel + 1, d =>
      if d.digits ≠ 0 ∧ d.digits % 10 = 0 then
        dropZeros fuel { d with digits := d.digits / 10, exponent := d.exponent + 1 }
      else d

/-- The decimal of fewest digits that reads back as the finite number of that magnitude; of two,
the nearer. Seventeen digits always suffice. -/
def shortest (magnitude : Nat) : Decimal :=
  if magnitude = 0 then ⟨false, 0, 0⟩
  else
    let (num, den) := Binary64.fraction magnitude
    let k := decade num den
    let grids := (List.range 17).flatMap fun n : Nat => neighbours num den (k - n)
    dropZeros 20 ((grids.find? (readsBack magnitude)).getD ⟨false, num / den, 0⟩)

end Decimal

/-! ### Writing -/

namespace Binary64

/-- Digits with a point `places` before their end; zeros fill a gap on either side. -/
def pointed (digits : List Char) (exponent : Int) : String × String :=
  if 0 ≤ exponent then
    (String.ofList (digits ++ List.replicate exponent.toNat '0'), "")
  else
    let places := (-exponent).toNat
    let padded := List.replicate (places + 1 - digits.length) '0' ++ digits
    let whole := padded.length - places
    (String.ofList (padded.take whole), String.ofList (padded.drop whole))

/-- The sign of a number in front of a text. -/
def signed (x : Binary64) (text : String) : String :=
  if x.negative then "-" ++ text else text

/-- A number in full: no exponent, and no point where there are no places. -/
def plainText (x : Binary64) : String :=
  if x.isNaN then "NaN"
  else if !x.isFinite then x.signed "inf"
  else
    let d := Decimal.shortest x.magnitude
    let (whole, places) := pointed (Nat.toDigits 10 d.digits) d.exponent
    x.signed (if places.isEmpty then whole else whole ++ "." ++ places)

/-- A finite number with at least one place, written with an exponent from `10 ^ 16` on and below
`10 ^ -5`. -/
def scaledText (x : Binary64) : String :=
  let d := Decimal.shortest x.magnitude
  let digits := Nat.toDigits 10 d.digits
  let top : Int := digits.length + d.exponent
  if -5 < top ∧ top ≤ 16 then
    let (whole, places) := pointed digits d.exponent
    x.signed (whole ++ "." ++ (if places.isEmpty then "0" else places))
  else
    let head := String.ofList (digits.take 1)
    let tail := String.ofList (digits.drop 1)
    x.signed (head ++ (if tail.isEmpty then "" else "." ++ tail) ++ "e" ++ toString (top - 1))

end Binary64

end Wayfarer
