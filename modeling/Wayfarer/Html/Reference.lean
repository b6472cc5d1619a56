import Wayfarer.Html.CharacterName

/-!
References to characters.

* `Html.Reference`: the characters that a reference stands for, and how much of the text it takes;
* `Html.numberedChar`: the character of a number;
* `Html.reference?`: the reference that the text behind an ampersand begins with;
* `Html.unescaped`: the value of an attribute, its references replaced.
-/

namespace Wayfarer.Html

/-- The characters that a reference stands for, and how many characters behind the ampersand it
takes. -/
structure Reference where
  chars : List Char
  length : Nat
deriving Repr

/-! ### By number -/

/-- The characters that the numbers from 128 to 159 mean in documents, where they are not
themselves. -/
def highNumbers : List Nat :=
  [0x20AC, 0x81, 0x201A, 0x192, 0x201E, 0x2026, 0x2020, 0x2021, 0x2C6, 0x2030, 0x160, 0x2039, 0x152,
    0x8D, 0x17D, 0x8F, 0x90, 0x2018, 0x2019, 0x201C, 0x201D, 0x2022, 0x2013, 0x2014, 0x2DC, 0x2122,
    0x161, 0x203A, 0x153, 0x9D, 0x17E, 0x178]

/-- The character of a number; a number of none is U+FFFD. -/
def numberedChar (n : Nat) : Char :=
  if n = 0 ∨ 0x10FFFF < n ∨ (0xD800 ≤ n ∧ n ≤ 0xDFFF) then '\uFFFD'
  else if 0x80 ≤ n ∧ n < 0xA0 then Char.ofNat (highNumbers.getD (n - 0x80) n)
  else Char.ofNat n

/-- One if a semicolon ends the reference. -/
def semicolon (cs : List Char) : Nat :=
  if cs.head? = some ';' then 1 else 0

/-- The reference by a number in some base, behind `marks` characters. -/
def numbered? (base marks : Nat) (cs : List Char) : Option Reference :=
  let isDigit := fun c => (hexValue? c).any (· < base)
  let digits := cs.takeWhile isDigit
  if digits.isEmpty then none
  else
    let n := readDigits base (digits.filterMap hexValue?)
    some ⟨[numberedChar n], marks + digits.length + semicolon (cs.dropWhile isDigit)⟩

/-! ### By name -/

/-- The longest name among the first `n` characters of a text and those before them. -/
def longestNamed? (cs : List Char) : Nat → Option Reference
  | 0 => none
  | n + 1 =>
      match named? (String.ofList (cs.take (n + 1))) with
      | some chars => some ⟨chars, n + 1⟩
      | none => longestNamed? cs n

/-- The reference by the longest name that a text begins with. No name is longer than 32
characters. -/
def namedReference? (cs : List Char) : Option Reference :=
  let name := (cs.take 32).takeWhile Char.isAlphanum
  longestNamed? cs (name.length + semicolon (cs.drop name.length))

/-- The reference that the text behind an ampersand begins with. -/
def reference? (cs : List Char) : Option Reference :=
  match cs with
  | '#' :: 'x' :: rest => numbered? 16 2 rest
  | '#' :: 'X' :: rest => numbered? 16 2 rest
  | '#' :: rest => numbered? 10 1 rest
  | _ => namedReference? cs

/-! ### In attributes -/

/-- Whether a reference in an attribute is meant as text: it is a name without its semicolon, and
what follows could go on. -/
def isMeantAsText (cs : List Char) (r : Reference) : Bool :=
  cs.head? ≠ some '#' && cs[r.length - 1]? ≠ some ';' &&
    (cs[r.length]?.any fun c => c = '=' || c.isAlphanum)

/-- A text of which the first `skip` characters belong to a reference already replaced. -/
def unescapedFrom (skip : Nat) : List Char → List Char
  | [] => []
  | c :: cs =>
      if 0 < skip then unescapedFrom (skip - 1) cs
      else if c = '&' then
        match reference? cs with
        | some r =>
            if isMeantAsText cs r then c :: unescapedFrom 0 cs
            else r.chars ++ unescapedFrom r.length cs
        | none => c :: unescapedFrom 0 cs
      else c :: unescapedFrom 0 cs

/-- The value of an attribute, its references replaced. -/
def unescaped (cs : List Char) : List Char :=
  unescapedFrom 0 cs

end Wayfarer.Html
