/-!
Numbers of double precision, kept as the sixty-four bits that stand for them.

* `Binary64`: a bit pattern;
* `Binary64.le`: the order, in which nothing compares with a NaN and the two zeros are equal;
* `Binary64.nearest`: the magnitude of the number nearest to a fraction, a tie going to the
  even one;
* `Binary64.fraction`: the value of a magnitude as a fraction.
-/

namespace Wayfarer

/-- A number of double precision. -/
structure Binary64 where
  bits : UInt64
deriving Repr, DecidableEq, Inhabited

namespace Binary64

/-! ### Bit fields -/

/-- The weight of the sign bit. -/
abbrev signWeight : Nat := 9223372036854775808

/-- The weight of the lowest bit of the exponent. -/
abbrev exponentWeight : Nat := 4503599627370496

/-- Whether the sign bit is set. -/
def negative (x : Binary64) : Bool :=
  signWeight ≤ x.bits.toNat

/-- The bits below the sign. Among numbers of one sign they are ordered as the numbers are. -/
def magnitude (x : Binary64) : Nat :=
  x.bits.toNat % signWeight

/-- The magnitude of the infinities. -/
def infinite : Nat :=
  2047 * exponentWeight

/-- Whether the pattern stands for no number. -/
def isNaN (x : Binary64) : Bool :=
  infinite < x.magnitude

/-- Whether the pattern stands for a real number. -/
def isFinite (x : Binary64) : Bool :=
  x.magnitude < infinite

/-- The pattern with a sign and a magnitude. -/
def ofMagnitude (negative : Bool) (magnitude : Nat) : Binary64 :=
  ⟨UInt64.ofNat (if negative then signWeight + magnitude else magnitude)⟩

/-- The pattern that stands for no number. -/
def nan : Binary64 :=
  ofMagnitude false (infinite + exponentWeight / 2)

/-! ### Order -/

/-- The place of a number in the order. -/
def rank (x : Binary64) : Int :=
  if x.negative then -x.magnitude else x.magnitude

/-- The order. -/
def le (x y : Binary64) : Bool :=
  !x.isNaN && !y.isNaN && decide (x.rank ≤ y.rank)

/-! ### Rounding -/

/-- The whole number nearest to `num / den`, a tie going to the even one. -/
def roundHalfEven (num den : Nat) : Nat :=
  let q := num / den
  let r := num % den
  if 2 * r < den then q
  else if den < 2 * r then q + 1
  else q + q % 2

/-- The exponent `e` for which `num / den` lies between `2 ^ (e + 52)` and `2 ^ (e + 53)`, or the
least exponent there is. -/
def scale (num den : Nat) : Int :=
  let e : Int := (num.log2 : Int) - den.log2
  let e := if num * Nat.pow 2 (-e).toNat < den * Nat.pow 2 e.toNat then e - 1 else e
  max (e - 52) (-1074)

/-- The magnitude of the number nearest to the positive fraction `num / den`; where there is no
finite one it is infinite. -/
def nearest (num den : Nat) : Nat :=
  if num = 0 then 0
  else
    let e := scale num den
    let q := roundHalfEven (num * Nat.pow 2 (-e).toNat) (den * Nat.pow 2 e.toNat)
    min ((e + 1074).toNat * exponentWeight + q) infinite

/-- The number nearest to `num / den` with the given sign. -/
def ofFraction (negative : Bool) (num den : Nat) : Binary64 :=
  ofMagnitude negative (nearest num den)

/-- The number nearest to an integer. -/
def ofInt (n : Int) : Binary64 :=
  ofFraction (n < 0) n.natAbs 1

/-- The value of a finite magnitude, as a fraction. -/
def fraction (magnitude : Nat) : Nat × Nat :=
  let e : Nat := magnitude / exponentWeight
  let f : Nat := magnitude % exponentWeight
  let m := if e = 0 then f else exponentWeight + f
  let q : Int := (if e = 0 then 1 else (e : Int)) - 1075
  (m * Nat.pow 2 q.toNat, Nat.pow 2 (-q).toNat)

/-- The whole number nearest to a finite number, a half going away from zero. -/
def round (x : Binary64) : Int :=
  let (num, den) := fraction x.magnitude
  let n := (2 * num + den) / (2 * den)
  if x.negative then -(n : Int) else n

end Binary64

end Wayfarer
