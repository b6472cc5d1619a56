import Wayfarer.Datum.Basic
import Wayfarer.Number.Decimal

/-!
Data written as JSON.

* `Json.quote`: a text between quotes, with escapes for quotes, backslashes and control characters;
* `Datum.pretty`: a value over several lines, two blanks for each level.

A number that is not finite is written as `null`.
-/

namespace Wayfarer

namespace Json

/-- A character of a quoted text. -/
def escape (c : Char) : List Char :=
  if c = '"' then ['\\', '"']
  else if c = '\\' then ['\\', '\\']
  else if c = '\n' then ['\\', 'n']
  else if c = '\r' then ['\\', 'r']
  else if c = '\t' then ['\\', 't']
  else if c.toNat = 8 then ['\\', 'b']
  else if c.toNat = 12 then ['\\', 'f']
  else if c.toNat < 32 then
    ['\\', 'u', '0', '0', (hexDigit (c.toNat / 16)).toLower, (hexDigit (c.toNat % 16)).toLower]
  else [c]

/-- A text between quotes. -/
def quote (s : String) : String :=
  String.ofList ('"' :: s.toList.flatMap escape ++ ['"'])

/-- The line break in front of an item at some depth. -/
def newline (depth : Nat) : String :=
  "\n" ++ String.ofList (List.replicate (2 * depth) ' ')

/-- Items between brackets, each on a line of its own; no items leave the brackets together. -/
def block (opening closing : String) (depth : Nat) (items : List String) : String :=
  if items.isEmpty then opening ++ closing
  else
    opening ++ ",".intercalate (items.map (newline (depth + 1) ++ ·)) ++ newline depth ++ closing

end Json

namespace Datum

mutual

/-- A value whose first line is already indented to `depth`. -/
def prettyAt (depth : Nat) : Datum → String
  | null => "null"
  | bool b => if b then "true" else "false"
  | int n => toString n
  | real x => if x.isFinite then x.scaledText else "null"
  | text s => Json.quote s
  | list items => Json.block "[" "]" depth (prettyItems (depth + 1) items)
  | table fields => Json.block "\x7b" "\x7d" depth (prettyFields (depth + 1) fields)

/-- The items of a list. -/
def prettyItems (depth : Nat) : List Datum → List String
  | [] => []
  | item :: items => prettyAt depth item :: prettyItems depth items

/-- The fields of a table. -/
def prettyFields (depth : Nat) : List (String × Datum) → List String
  | [] => []
  | (key, value) :: fields =>
      (Json.quote key ++ ": " ++ prettyAt depth value) :: prettyFields depth fields

end

/-- A value as JSON over several lines. -/
def pretty (d : Datum) : String :=
  prettyAt 0 d

end Datum

end Wayfarer
