import Wayfarer.Datum.Basic
import Wayfarer.Number.Decimal
import Wayfarer.Number.Width

/-!
Numbers, truth values and times in TOML.

* `Toml.integer?`: an integer of 64 bits in one of four bases;
* `Toml.real?`: a number of double precision;
* `Toml.time?`: a date, a time of day or both, as text;
* `Toml.scalar?`: the value of a word.
-/

namespace Wayfarer.Toml

/-! ### Integers -/

/-- Digits, of which underscores may stand between two. -/
def digits? (isDigit : Char → Bool) (cs : List Char) : Option (List Char) :=
  let groups := splitAtEvery (· = '_') cs
  if groups.all fun g => !g.isEmpty && g.all isDigit then some groups.flatten else none

/-- A number that 64 bits hold. -/
def bounded? (n : Int) : Option Int :=
  if Width.least64 ≤ n ∧ n ≤ Width.most64 then some n else none

/-- A natural number in some base. -/
def based? (base : Nat) (cs : List Char) : Option Int := do
  let ds ← digits? (fun c => (hexValue? c).any (· < base)) cs
  bounded? (readDigits base (ds.filterMap hexValue?))

/-- The digits of a decimal integer, without zeros in front. -/
def whole? (cs : List Char) : Option (List Char) := do
  let ds ← digits? Char.isDigit cs
  if ds.head? = some '0' && 1 < ds.length then none else some ds

/-- An integer. -/
def integer? (cs : List Char) : Option Int :=
  match cs with
  | '0' :: 'x' :: ds => based? 16 ds
  | '0' :: 'o' :: ds => based? 8 ds
  | '0' :: 'b' :: ds => based? 2 ds
  | _ => do
      let (negative, ds) := Decimal.splitSign cs
      let n : Int := readDigits 10 ((← whole? ds).map digitValue)
      bounded? (if negative then -n else n)

/-! ### Numbers with a point or an exponent -/

/-- Digits behind a mark, or nothing. -/
def part? (mark : Char → Bool) (cs : List Char) : Option (List Char) :=
  match cs with
  | [] => some []
  | c :: ds => if mark c then (digits? Char.isDigit ds).map (c :: ·) else none

/-- An exponent with its sign, or nothing. -/
def exponent? (cs : List Char) : Option (List Char) :=
  match cs with
  | [] => some []
  | e :: '-' :: ds => (digits? Char.isDigit ds).map fun ds => e :: '-' :: ds
  | e :: '+' :: ds => (digits? Char.isDigit ds).map (e :: ·)
  | e :: ds => (digits? Char.isDigit ds).map (e :: ·)

/-- Whether a character begins an exponent. -/
def isExponentMark (c : Char) : Bool :=
  c = 'e' || c = 'E'

/-- A number with a point or an exponent, written out without underscores. -/
def realDigits? (cs : List Char) : Option (List Char) := do
  let mantissa := cs.takeWhile (!isExponentMark ·)
  let whole ← whole? (mantissa.takeWhile (· ≠ '.'))
  let places ← part? (· = '.') (mantissa.dropWhile (· ≠ '.'))
  let exponent ← exponent? (cs.dropWhile (!isExponentMark ·))
  if places.isEmpty && exponent.isEmpty then none else some (whole ++ places ++ exponent)

/-- A number of double precision; none beyond the largest. -/
def real? (cs : List Char) : Option Binary64 :=
  let (negative, rest) := Decimal.splitSign cs
  if rest = "inf".toList then some (Binary64.ofMagnitude negative Binary64.infinite)
  else if rest = "nan".toList then
    some (Binary64.ofMagnitude negative Binary64.nan.magnitude)
  else do
    let x ← Decimal.readNumber? (String.ofList (← realDigits? rest))
    if x.isFinite then some (if negative then Binary64.ofMagnitude true x.magnitude else x)
    else none

/-! ### Times -/

/-- A number of just `n` digits at the front of a text, between two bounds, and what follows. -/
def field? (n least most : Nat) (cs : List Char) : Option (Nat × List Char) :=
  let ds := cs.take n
  let value := readDigits 10 (ds.map digitValue)
  if ds.length = n && ds.all Char.isDigit && least ≤ value && value ≤ most then
    some (value, cs.drop n)
  else none

/-- What follows a character that has to stand in front. -/
def after? (c : Char) : List Char → Option (List Char)
  | d :: cs => if d = c then some cs else none
  | [] => none

/-- The number of days of a month. -/
def daysOf (year month : Nat) : Nat :=
  if [4, 6, 9, 11].contains month then 30
  else if month = 2 then
    if year % 4 = 0 ∧ (year % 100 ≠ 0 ∨ year % 400 = 0) then 29 else 28
  else 31

/-- A number written with `n` digits at least. -/
def padded (n value : Nat) : List Char :=
  let ds := Nat.toDigits 10 value
  List.replicate (n - ds.length) '0' ++ ds

/-- A date at the front of a text, written out, and what follows. -/
def date? (cs : List Char) : Option (List Char × List Char) := do
  let (year, cs) ← field? 4 0 9999 cs
  let (month, cs) ← field? 2 1 12 (← after? '-' cs)
  let (day, cs) ← field? 2 1 (daysOf year month) (← after? '-' cs)
  some (padded 4 year ++ '-' :: padded 2 month ++ '-' :: padded 2 day, cs)

/-- The part of a second at the front of a text, down to nanoseconds, and what follows. -/
def fraction? (cs : List Char) : Option (List Char × List Char) :=
  match cs with
  | '.' :: rest =>
      let ds := rest.takeWhile Char.isDigit
      let kept := trimEnd (· = '0') (ds.take 9)
      if ds.isEmpty then none
      else some (if kept.isEmpty then [] else '.' :: kept, rest.dropWhile Char.isDigit)
  | _ => some ([], cs)

/-- The second of a time of day and its parts, both possibly left out, and what follows. -/
def second? (cs : List Char) : Option (List Char × List Char) :=
  match cs with
  | ':' :: rest => do
      let (second, rest) ← field? 2 0 60 rest
      let (fraction, rest) ← fraction? rest
      some (padded 2 second ++ fraction, rest)
  | _ => some (padded 2 0, cs)

/-- A time of day at the front of a text, written out, and what follows. -/
def clock? (cs : List Char) : Option (List Char × List Char) := do
  let (hour, cs) ← field? 2 0 23 cs
  let (minute, cs) ← field? 2 0 59 (← after? ':' cs)
  let (second, cs) ← second? cs
  some (padded 2 hour ++ ':' :: padded 2 minute ++ ':' :: second, cs)

/-- The distance of a time from the one of the prime meridian, written out, or nothing. -/
def offset? (cs : List Char) : Option (List Char) :=
  match cs with
  | [] => some []
  | ['Z'] => some ['Z']
  | ['z'] => some ['Z']
  | sign :: rest => do
      let (hour, rest) ← field? 2 0 23 rest
      let (minute, rest) ← field? 2 0 59 (← after? ':' rest)
      if !rest.isEmpty || (sign ≠ '+' && sign ≠ '-') then none
      else
        let sign := if hour = 0 ∧ minute = 0 then '+' else sign
        some (sign :: padded 2 hour ++ ':' :: padded 2 minute)

/-- Whether a character stands between a date and a time of day. -/
def joinsTime (c : Char) : Bool :=
  c = 'T' || c = 't' || c = ' '

/-- A date, a time of day or both, written out. -/
def time? (cs : List Char) : Option (List Char) :=
  match date? cs with
  | some (date, []) => some date
  | some (date, c :: rest) =>
      if joinsTime c then do
        let (clock, rest) ← clock? rest
        some (date ++ 'T' :: clock ++ (← offset? rest))
      else none
  | none =>
      match clock? cs with
      | some (clock, []) => some clock
      | _ => none

/-! ### Words -/

/-- The value of a word. A time is a text. -/
def scalar? (word : List Char) : Option Datum :=
  if word = "true".toList then some (.bool true)
  else if word = "false".toList then some (.bool false)
  else
    match integer? word, real? word, time? word with
    | some n, _, _ => some (.int n)
    | none, some x, _ => some (.real x)
    | none, none, some t => some (.text (String.ofList t))
    | none, none, none => none

/-- Whether a character is part of a word. -/
def isWordChar (c : Char) : Bool :=
  c.isAlphanum || c = '_' || c = '+' || c = '-' || c = '.' || c = ':'

/-- The word at the front of a text and what follows. A blank between a date and a time of day is
part of the word. -/
def word (cs : List Char) : List Char × List Char :=
  let front := cs.takeWhile isWordChar
  let rest := cs.dropWhile isWordChar
  match date? front, rest with
  | some (_, []), ' ' :: c :: more =>
      if c.isDigit then
        (front ++ ' ' :: (c :: more).takeWhile isWordChar, (c :: more).dropWhile isWordChar)
      else (front, rest)
  | _, _ => (front, rest)

end Wayfarer.Toml
