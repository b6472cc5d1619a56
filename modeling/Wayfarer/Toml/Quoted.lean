import Wayfarer.Text.Letters

/-!
Quoted texts in TOML.

* `Toml.Quoting`: the mark around a text, whether it holds escapes, and whether it holds lines;
* `Toml.Quoting.read`: the text behind an opening mark and what follows the closing one;
* `Toml.quoted?`: the quoted text at the front of a document.
-/

namespace Wayfarer.Toml

/-- How a text is quoted. A text that holds lines is between three marks on either side. -/
structure Quoting where
  mark : Char
  escapes : Bool
  lines : Bool

/-- Where in a quoted text a reader is: between characters, behind marks that may close the text,
behind a backslash, in the number of a character, or behind a backslash that folds lines. -/
inductive Place where
  | text
  | marks (count : Nat)
  | escaped
  | coded (left value : Nat)
  | folding (broken : Bool)

/-- What a character means: some text and a new place, the end of the text before or behind the
character, or a fault. -/
inductive Move where
  | go (out : List Char) (next : Place)
  | close (out : List Char) (keeps : Bool)
  | fail

/-- Whether a character may stand in a text as it is: no control character but the tab. -/
def isPlain (c : Char) : Bool :=
  c = '\t' || (32 ≤ c.toNat && c.toNat ≠ 127)

/-- The blanks within a line. -/
def isGap (c : Char) : Bool :=
  c = ' ' || c = '\t'

/-- The character of a number, unless the number is of none. -/
def numbered? (n : Nat) : Option Char :=
  if n < 0xD800 ∨ (0xDFFF < n ∧ n ≤ 0x10FFFF) then some (Char.ofNat n) else none

/-- What a letter behind a backslash stands for. -/
def escapeOf (c : Char) : Move :=
  match c with
  | 'b' => .go ['\x08'] .text
  | 't' => .go ['\t'] .text
  | 'n' => .go ['\n'] .text
  | 'f' => .go ['\x0c'] .text
  | 'r' => .go ['\r'] .text
  | 'e' => .go ['\x1b'] .text
  | '"' => .go ['"'] .text
  | '\\' => .go ['\\'] .text
  | 'x' => .go [] (.coded 2 0)
  | 'u' => .go [] (.coded 4 0)
  | 'U' => .go [] (.coded 8 0)
  | _ => .fail

/-- A digit in the number of a character, of which `left` digits are missing. -/
def codeDigit (left value : Nat) (c : Char) : Move :=
  match hexValue? c with
  | none => .fail
  | some d =>
      let value := value * 16 + d
      if 1 < left then .go [] (.coded (left - 1) value)
      else match numbered? value with
        | some c => .go [c] .text
        | none => .fail

namespace Quoting

/-- A character between characters. -/
def plain (q : Quoting) (c : Char) : Move :=
  if c = q.mark then (if q.lines then .go [] (.marks 1) else .close [] false)
  else if c = '\\' && q.escapes then .go [] .escaped
  else if isPlain c || (c = '\n' && q.lines) then .go [c] .text
  else .fail

/-- A character at any place. -/
def step (q : Quoting) (place : Place) (c : Char) : Move :=
  match place with
  | .text => q.plain c
  | .marks n =>
      if c = q.mark then
        if n = 4 then .close [c, c] false else .go [] (.marks (n + 1))
      else if 3 ≤ n then .close (List.replicate (n - 3) q.mark) true
      else match q.plain c with
        | .go out next => .go (List.replicate n q.mark ++ out) next
        | move => move
  | .escaped =>
      if q.lines && c = '\n' then .go [] (.folding true)
      else if q.lines && isGap c then .go [] (.folding false)
      else escapeOf c
  | .coded left value => codeDigit left value c
  | .folding broken =>
      if c = '\n' then .go [] (.folding true)
      else if isGap c then .go [] (.folding broken)
      else if broken then q.plain c
      else .fail

/-- The text behind an opening mark and what follows the closing one. -/
def read (q : Quoting) : Place → List Char → Option (List Char × List Char)
  | .marks n, [] => if 3 ≤ n then some (List.replicate (n - 3) q.mark, []) else none
  | _, [] => none
  | place, c :: cs =>
      match q.step place c with
      | .go out next => (q.read next cs).map fun (text, rest) => (out ++ text, rest)
      | .close out keeps => some (out, if keeps then c :: cs else cs)
      | .fail => none

end Quoting

/-- A text without the line break at its front. -/
def dropBreak : List Char → List Char
  | '\n' :: cs => cs
  | cs => cs

/-- The text of one line between marks at the front of a document, and what follows it. -/
def quotedLine? : List Char → Option (List Char × List Char)
  | '"' :: cs => Quoting.read ⟨'"', true, false⟩ .text cs
  | '\'' :: cs => Quoting.read ⟨'\'', false, false⟩ .text cs
  | _ => none

/-- The quoted text at the front of a document, and what follows it. -/
def quoted? : List Char → Option (List Char × List Char)
  | '"' :: '"' :: '"' :: cs => Quoting.read ⟨'"', true, true⟩ .text (dropBreak cs)
  | '\'' :: '\'' :: '\'' :: cs => Quoting.read ⟨'\'', false, true⟩ .text (dropBreak cs)
  | cs => quotedLine? cs

end Wayfarer.Toml
