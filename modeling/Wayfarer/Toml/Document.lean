import Wayfarer.Toml.Quoted
import Wayfarer.Toml.Scalar
import Wayfarer.Toml.Tree

/-!
TOML documents.

* `Toml.key?`: a dotted key;
* `Toml.value?`: a value of any kind;
* `Toml.Draft`: the tables so far and the one that lines belong to;
* `Toml.parse`: the table that a document is.
-/

namespace Wayfarer.Toml

/-! ### Gaps -/

/-- A text without blanks in front. -/
def skipGap (cs : List Char) : List Char :=
  cs.dropWhile isGap

/-- What follows a comment, if there is one. A comment holds no control characters. -/
def skipComment? (cs : List Char) : Option (List Char) :=
  match cs with
  | '#' :: rest =>
      if (rest.takeWhile (· ≠ '\n')).all isPlain then some (rest.dropWhile (· ≠ '\n')) else none
  | _ => some cs

/-- What follows the end of a line. -/
def endLine? (cs : List Char) : Option (List Char) :=
  match skipComment? (skipGap cs) with
  | some ('\n' :: rest) => some rest
  | some [] => some []
  | _ => none

/-- What follows blanks, line breaks and comments; `fuel` bounds the number of lines. -/
def skipLines? : Nat → List Char → Option (List Char)
  | 0, cs => some cs
  | fuel + 1, cs =>
      match skipComment? (skipGap cs) with
      | some ('\n' :: rest) => skipLines? fuel rest
      | rest => rest

/-- What follows blanks, line breaks and comments. -/
def skipGaps? (cs : List Char) : Option (List Char) :=
  skipLines? cs.length cs

/-! ### Keys -/

/-- The characters of a key without quotes. -/
def isKeyChar (c : Char) : Bool :=
  c.isAlphanum || c = '_' || c = '-'

/-- One part of a key at the front of a text and what follows. -/
def keyPart? (cs : List Char) : Option (String × List Char) :=
  match quotedLine? cs with
  | some (text, rest) => some (String.ofList text, rest)
  | none =>
      let name := cs.takeWhile isKeyChar
      if name.isEmpty then none else some (String.ofList name, cs.dropWhile isKeyChar)

/-- The parts of a key at the front of a text and what follows; `fuel` bounds their number. -/
def keyParts? : Nat → List Char → Option (List String × List Char)
  | 0, _ => none
  | fuel + 1, cs => do
      let (part, rest) ← keyPart? (skipGap cs)
      match skipGap rest with
      | '.' :: rest => do
          let (parts, rest) ← keyParts? fuel rest
          some (part :: parts, rest)
      | rest => some ([part], rest)

/-- A key at the front of a text: the tables that it goes through, its last part, and what follows
with no blanks in front. -/
def key? (cs : List Char) : Option (List String × String × List Char) := do
  let (parts, rest) ← keyParts? cs.length cs
  some (parts.dropLast, ← parts.getLast?, rest)

/-! ### Values -/

/-- How deep values are nested at most. -/
def maxDepth : Nat := 80

mutual

/-- A value at the front of a text and what follows; `fuel` bounds the number of values and `depth`
how deep they may nest. -/
def value? : Nat → Nat → List Char → Option (Node × List Char)
  | 0, _, _ => none
  | fuel + 1, depth, cs =>
      match cs, depth with
      | '[' :: rest, depth + 1 =>
          (items? fuel depth rest).map fun (items, rest) => (.leaf (.list items), rest)
      | '\x7b' :: rest, depth + 1 =>
          (pairs? fuel depth [] rest).map fun (fields, rest) => (.table .braces fields, rest)
      | _, _ =>
          match quoted? cs with
          | some (text, rest) => some (.leaf (.text (String.ofList text)), rest)
          | none =>
              let (w, rest) := word cs
              (scalar? w).map fun d => (.leaf d, rest)

/-- The items of a list up to its closing bracket, and what follows. -/
def items? : Nat → Nat → List Char → Option (List Datum × List Char)
  | 0, _, _ => none
  | fuel + 1, depth, cs =>
      match skipGaps? cs with
      | some (']' :: rest) => some ([], rest)
      | some cs => do
          let (item, rest) ← value? fuel depth cs
          match ← skipGaps? rest with
          | ']' :: rest => some ([item.datum], rest)
          | ',' :: rest => do
              let (items, rest) ← items? fuel depth rest
              some (item.datum :: items, rest)
          | _ => none
      | none => none

/-- The fields of a table up to its closing brace, added to those before them, and what follows. -/
def pairs? : Nat → Nat → Fields → List Char → Option (Fields × List Char)
  | 0, _, _, _ => none
  | fuel + 1, depth, fields, cs =>
      match skipGaps? cs with
      | some ('\x7d' :: rest) => some (fields, rest)
      | some cs => do
          let (path, key, rest) ← key? cs
          let (value, rest) ← value? fuel depth (skipGap (← after? '=' rest))
          let fields ← setKey path key value .header fields
          match ← skipGaps? rest with
          | '\x7d' :: rest => some (fields, rest)
          | ',' :: rest => pairs? fuel depth fields rest
          | _ => none
      | none => none

end

/-! ### Documents -/

/-- The tables so far, and the path to the one that lines belong to. -/
structure Draft where
  root : Fields
  here : List String

namespace Draft

/-- The draft behind the header of a table. -/
def header? (d : Draft) (cs : List Char) : Option (Draft × List Char) := do
  let (path, key, rest) ← key? cs
  let root ← declareTable path key d.root
  some (⟨root, path ++ [key]⟩, ← endLine? (← after? ']' rest))

/-- The draft behind the header of a table in a list. -/
def itemHeader? (d : Draft) (cs : List Char) : Option (Draft × List Char) := do
  let (path, key, rest) ← key? cs
  let root ← declareItem path key d.root
  some (⟨root, path ++ [key]⟩, ← endLine? (← after? ']' (← after? ']' rest)))

/-- The draft behind a line with a key and its value. -/
def pair? (d : Draft) (cs : List Char) : Option (Draft × List Char) := do
  let (path, key, rest) ← key? cs
  let (value, rest) ← value? cs.length maxDepth (skipGap (← after? '=' rest))
  let root ← descend false (setKey path key value) d.here .header d.root
  some ({ d with root }, ← endLine? rest)

/-- The draft behind a whole document; `fuel` bounds the number of lines. -/
def read : Nat → Draft → List Char → Option Draft
  | 0, d, _ => some d
  | fuel + 1, d, cs =>
      match skipGaps? cs with
      | none => none
      | some [] => some d
      | some ('[' :: '[' :: rest) => (d.itemHeader? rest).bind fun (d, rest) => d.read fuel rest
      | some ('[' :: rest) => (d.header? rest).bind fun (d, rest) => d.read fuel rest
      | some cs => (d.pair? cs).bind fun (d, rest) => d.read fuel rest

end Draft

/-- A text with every pair of carriage return and line feed made a line feed. -/
def lineFeeds : List Char → List Char
  | '\r' :: '\n' :: cs => '\n' :: lineFeeds cs
  | c :: cs => c :: lineFeeds cs
  | [] => []

/-- The table that a document is. -/
def parse (cs : List Char) : Option (List (String × Datum)) :=
  let cs := lineFeeds (if cs.head? = some '\uFEFF' then cs.drop 1 else cs)
  (Draft.read (cs.length + 1) ⟨[], []⟩ cs).map fun d => Fields.data d.root

end Wayfarer.Toml
