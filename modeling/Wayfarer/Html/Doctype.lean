import Wayfarer.Text.Letters

/-!
Document types.

* `Html.Doctype`: a name, two identifiers, and whether the declaration was cut short;
* `Html.Doctype.read`: the declaration that a text begins with;
* `Html.Doctype.isLegacy`: whether documents of the type are laid out as they once were.
-/

namespace Wayfarer.Html

/-- A document type. -/
structure Doctype where
  name : Option String
  publicId : Option String
  systemId : Option String
  broken : Bool
deriving Repr

/-- The characters between the parts of a tag. -/
def isSpace (c : Char) : Bool :=
  c = '\t' || c = '\n' || c = '\x0c' || c = ' '

/-- A NUL read as U+FFFD. -/
def replaceNul (c : Char) : Char :=
  if c = '\x00' then '\uFFFD' else c

namespace Doctype

/-! ### Reading -/

/-- What follows the end of a declaration. -/
def skip (cs : List Char) : List Char :=
  (cs.dropWhile (· ≠ '>')).drop 1

/-- The identifier between quotes at the front of a text and what follows; no identifier goes
beyond the declaration. -/
def quoted? (cs : List Char) : Option (String × Bool × List Char) :=
  match cs with
  | q :: rest =>
      if q = '"' || q = '\'' then
        let id := rest.takeWhile fun c => c ≠ q && c ≠ '>'
        let after := rest.drop id.length
        some (String.ofList (id.map replaceNul), after.head? = some q,
          if after.head? = some q then after.drop 1 else after)
      else none
  | [] => none

/-- The word at the front of a text, in any case, and what follows. -/
def afterWord? (word : String) (cs : List Char) : Option (List Char) :=
  if (cs.take word.length).map Char.toLower = word.toList then some (cs.drop word.length) else none

/-- The end of a declaration: the type, whole unless the text ends first. -/
def close (d : Doctype) (cs : List Char) : Doctype × List Char :=
  (if cs.contains '>' then d else { d with broken := true }, skip cs)

/-- The end of a declaration that breaks off. -/
def breakOff (d : Doctype) (cs : List Char) : Doctype × List Char :=
  ({ d with broken := true }, skip cs)

/-- The second identifier and the end of a declaration. -/
def readSystem (d : Doctype) (required : Bool) (cs : List Char) : Doctype × List Char :=
  let cs := trimStart isSpace cs
  match quoted? cs with
  | some (id, whole, rest) =>
      let d := { d with systemId := some id }
      if whole then close d rest else breakOff d rest
  | none =>
      if required || cs.head? ≠ some '>' then breakOff d cs else close d cs

/-- The identifiers and the end of a declaration. -/
def readIds (d : Doctype) (cs : List Char) : Doctype × List Char :=
  let cs := trimStart isSpace cs
  match afterWord? "public" cs, afterWord? "system" cs with
  | some rest, _ =>
      match quoted? (trimStart isSpace rest) with
      | some (id, whole, rest) =>
          let d := { d with publicId := some id }
          if whole then readSystem d false rest else breakOff d rest
      | none => breakOff d (trimStart isSpace rest)
  | none, some rest => readSystem d true rest
  | none, none => if cs.head? = some '>' then close d cs else breakOff d cs

/-- The type that the text behind the word `doctype` declares, and what follows. -/
def read (cs : List Char) : Doctype × List Char :=
  let cs := trimStart isSpace cs
  let isNameChar := fun c => !isSpace c && c ≠ '>'
  let name := cs.takeWhile isNameChar
  let d : Doctype := ⟨none, none, none, false⟩
  if name.isEmpty then breakOff d cs
  else
    readIds { d with name := some (String.ofList (name.map (replaceNul ·.toLower))) }
      (cs.dropWhile isNameChar)

/-! ### Legacy types -/

/-- First identifiers of legacy types. -/
def legacyIds : List String :=
  ["-//w3o//dtd w3 html strict 3.0//en//", "-/w3c/dtd html 4.0 transitional/en", "html"]

/-- How first identifiers of legacy types begin. -/
def legacyStarts : List String :=
  ["-//ietf//dtd html 2.0 level 1//", "-//ietf//dtd html 2.0 level 2//",
    "-//ietf//dtd html 2.0 strict level 1//", "-//ietf//dtd html 2.0 strict level 2//",
    "-//ietf//dtd html 2.0 strict//", "-//ietf//dtd html 2.0//", "-//ietf//dtd html 2.1e//",
    "-//ietf//dtd html 3.0//", "-//ietf//dtd html 3.2 final//", "-//ietf//dtd html 3.2//",
    "-//ietf//dtd html 3//", "-//ietf//dtd html level 0//", "-//ietf//dtd html level 1//",
    "-//ietf//dtd html level 2//", "-//ietf//dtd html level 3//",
    "-//ietf//dtd html strict level 0//", "-//ietf//dtd html strict level 1//",
    "-//ietf//dtd html strict level 2//", "-//ietf//dtd html strict level 3//",
    "-//ietf//dtd html strict//", "-//ietf//dtd html//", "-//w3c//dtd html 3 1995-03-24//",
    "-//w3c//dtd html 3.2 draft//", "-//w3c//dtd html 3.2 final//", "-//w3c//dtd html 3.2//",
    "-//w3c//dtd html 3.2s draft//", "-//w3c//dtd html 4.0 frameset//",
    "-//w3c//dtd html 4.0 transitional//", "-//w3c//dtd html experimental 19960712//",
    "-//w3c//dtd html experimental 970421//", "-//w3c//dtd w3 html//", "-//w3o//dtd w3 html 3.0//"]

/-- How first identifiers begin that are legacy only without a second one. -/
def legacyAloneStarts : List String :=
  ["-//w3c//dtd html 4.01 frameset//", "-//w3c//dtd html 4.01 transitional//"]

/-- Whether an identifier begins in one of some ways. -/
def beginsAny (starts : List String) (id : String) : Bool :=
  starts.any fun s => s.toList.isPrefixOf id.toList

/-- Whether documents of the type are laid out as they once were. -/
def isLegacy (d : Doctype) : Bool :=
  let publicId := d.publicId.map lowered
  d.broken || d.name ≠ some "html" ||
    publicId.any (fun p => legacyIds.contains p || beginsAny legacyStarts p) ||
    (d.systemId.isNone && publicId.any (beginsAny legacyAloneStarts))

end Doctype

end Wayfarer.Html
