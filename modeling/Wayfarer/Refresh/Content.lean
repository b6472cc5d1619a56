import Wayfarer.Number.Decimal

/-!
What a refresh directive says.

* `Refresh`: after how many seconds to go where;
* `Refresh.parse?`: the directive that a text is: a delay, a separator or the key `url`, and a
  target.
-/

namespace Wayfarer

/-- After how many seconds to go where. -/
structure Refresh where
  delay : Binary64
  target : String
deriving Repr, DecidableEq

namespace Refresh

/-- The characters of a delay. -/
def isDelayChar (c : Char) : Bool :=
  c.isDigit || c = '.'

/-- The characters between a delay and a target. -/
def isSeparator (c : Char) : Bool :=
  c = ';' || c = ','

/-- The characters that may enclose a target. -/
def isQuote (c : Char) : Bool :=
  c = '"' || c = '\''

/-- What follows the key `url` and its sign of equality, blanks allowed between them. -/
def afterKey? (cs : List Char) : Option (List Char) :=
  if (cs.take 3).map Char.toLower = ['u', 'r', 'l'] then
    match trimStart isBlank (cs.drop 3) with
    | '=' :: rest => some rest
    | _ => none
  else none

/-- What follows a delay, without a separator and the blanks around it, and whether there was
one. -/
def afterSeparator (cs : List Char) : Bool × List Char :=
  match trimStart isBlank cs with
  | [] => (false, [])
  | c :: rest => if isSeparator c then (true, trimStart isBlank rest) else (false, c :: rest)

/-- A target without blanks, then quotes, then blanks at its ends. -/
def bare (cs : List Char) : List Char :=
  trim isBlank (trim isQuote (trim isBlank cs))

/-- The text in which a target stands: what follows the key, or everything behind a separator. -/
def targetText? (cs : List Char) : Option (List Char) :=
  let (separated, rest) := afterSeparator cs
  match afterKey? rest with
  | some target => some target
  | none => if separated then some rest else none

/-- The directive that a text is. -/
def parse? (content : String) : Option Refresh := do
  let cs := trim isBlank content.toList
  let delay ← Decimal.ofPoint? (cs.takeWhile isDelayChar)
  let target := bare (← targetText? (cs.dropWhile isDelayChar))
  if target.isEmpty then none else some ⟨delay.toBinary64, String.ofList target⟩

end Refresh

end Wayfarer
