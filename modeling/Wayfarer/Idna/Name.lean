import Wayfarer.Idna.Mapping
import Wayfarer.Idna.Punycode
import Wayfarer.Text.Class.Bidi
import Wayfarer.Text.Class.Joining
import Wayfarer.Text.Normal
import Wayfarer.Text.Utf8

/-!
Domain names in ASCII.

* `Idna.Label`: a label with the characters that it shows and the ASCII form that it travels in;
* `Idna.joinersFit`: every joiner of a label has the neighbours that it needs;
* `Idna.directionFits`: a label whose characters run in one direction;
* `Idna.Label.read?`: the label that a text is;
* `Idna.toAscii?`: the ASCII form of a name.
-/

namespace Wayfarer.Idna

/-! ### Characters that depend on their neighbours -/

/-- Whether the characters after a joiner let the scripts on its two sides join. -/
def joinsRight (cs : List Char) : Bool :=
  match cs.dropWhile (joiningType · = .transparent) with
  | c :: _ => joiningType c = .right || joiningType c = .both
  | [] => false

/-- Whether the characters before a joiner, in reverse, do. -/
def joinsLeft (cs : List Char) : Bool :=
  match cs.dropWhile (joiningType · = .transparent) with
  | c :: _ => joiningType c = .left || joiningType c = .both
  | [] => false

/-- Whether every joiner has the neighbours that it needs: a virama before it or, for the one that
keeps characters apart, joining characters on both sides. `before` is what precedes, in reverse. -/
def joinersFitFrom (before : List Char) : List Char → Bool
  | [] => true
  | c :: cs =>
      let afterVirama := match before with
        | b :: _ => combiningClass b = 9
        | [] => false
      let fits :=
        if c.toNat = 0x200C then afterVirama || (joinsLeft before && joinsRight cs)
        else if c.toNat = 0x200D then afterVirama
        else true
      fits && joinersFitFrom (c :: before) cs

/-- Whether every joiner of a label has the neighbours that it needs. -/
def joinersFit (cs : List Char) : Bool :=
  joinersFitFrom [] cs

/-! ### Direction -/

/-- Whether a label has characters that run from right to left. -/
def runsLeft (cs : List Char) : Bool :=
  cs.any fun c => bidiClass c ∈ [BidiClass.right, .arabicLetter, .arabicNumber]

/-- Whether the characters of a label run in one direction. -/
def directionFits (cs : List Char) : Bool :=
  let classes := cs.map bidiClass
  let last := (classes.reverse.dropWhile (· = .mark)).head?
  let neutral :=
    [BidiClass.number, .separator, .commonSeparator, .terminator, .neutral, .boundary, .mark]
  match classes.head? with
  | none => true
  | some .left =>
      classes.all (fun k => k = .left || k ∈ neutral) && (last = some .left || last = some .number)
  | some first =>
      (first = .right || first = .arabicLetter) &&
      classes.all (fun k => k ∈ [BidiClass.right, .arabicLetter, .arabicNumber] || k ∈ neutral) &&
      (last ∈ [some BidiClass.right, some .arabicLetter, some .number, some .arabicNumber]) &&
      !(classes.contains .number && classes.contains .arabicNumber)

/-! ### Labels -/

/-- A label: the characters that it shows and the form that it travels in. -/
structure Label where
  shown : List Char
  ascii : List Char
deriving Repr, DecidableEq

/-- The characters in front of a form that is not the label itself. -/
def mark : List Char :=
  "xn--".toList

/-- The ASCII characters that no host name has. -/
def isForbidden (c : Char) : Bool :=
  c.toNat ≤ 0x20 || c.toNat = 0x7F || "%#/:<>?@[\\]^\x60\x7b|\x7d".toList.contains c

/-- Whether a label that shows characters beyond ASCII is well formed. -/
def wellFormed (cs : List Char) : Bool :=
  (match cs with
    | [] => true
    | c :: _ => !isMark c) &&
  joinersFit cs && !mark.isPrefixOf cs

/-- The label that a text in composed form is: ASCII as it stands, other characters encoded, and
an encoded form only if it is the form of what it shows. -/
def Label.read? (cs : List Char) : Option Label :=
  if cs.any isForbidden then none
  else match mark.isPrefixOf? cs with
    | some form =>
        match Punycode.decode? form with
        | some shown =>
            if form.length ≤ 2000 && shown.any (128 ≤ ·.toNat) && shown.all stays &&
                nfc shown = shown && wellFormed shown then
              some ⟨shown, cs⟩
            else none
        | none => none
    | none =>
        if cs.all (·.toNat < 128) then some ⟨cs, cs⟩
        else if wellFormed cs && cs.length ≤ 1000 then some ⟨cs, mark ++ Punycode.encode cs⟩
        else none

/-- The ASCII form of a name that bytes spell. Labels may be empty and of any length. -/
def toAscii? (bs : Bytes) : Option (List Char) := do
  let text ← Utf8.decode? bs
  let cs ← mapped? text
  let labels ← (splitAtEvery (· = '.') (nfc cs)).mapM Label.read?
  if labels.any (runsLeft ·.shown) && !labels.all (directionFits ·.shown) then none
  else some (['.'].intercalate (labels.map Label.ascii))

end Wayfarer.Idna
