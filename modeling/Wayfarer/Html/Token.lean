import Wayfarer.Html.Doctype
import Wayfarer.Html.Reference

/-!
The tokens of a document.

* `Html.Tag`: a name with attributes;
* `Html.Token`: a document type, a tag, a character, a comment or the end;
* `Html.readTag`: the tag that a text begins with;
* `Html.skipComment`, `Html.skipRaw`, `Html.skipScript`: what follows a comment, and what follows
  the text of an element that holds no markup;
* `Html.nextTokens`: the tokens at the front of a text, and what follows them.
-/

namespace Wayfarer.Html

/-- A tag: its name in small letters, its attributes, each name once, and whether it closes its
element at once. -/
structure Tag where
  name : String
  attributes : List (String × String)
  closed : Bool
deriving Repr, DecidableEq

/-- A token. What a comment says is not kept. -/
inductive Token where
  | doctype (legacy : Bool)
  | start (tag : Tag)
  | close (name : String)
  | char (c : Char)
  | comment
  | done
deriving Repr

/-! ### Tags -/

/-- Where in a tag a reader is. -/
inductive TagPlace where
  | name
  | beforeAttribute
  | attribute
  | afterAttribute
  | beforeValue
  | quoted (quote : Char)
  | unquoted
  | afterValue
  | slash

/-- What a reader has of a tag: the name, the attributes, and the attribute that is being read, all
in reverse. -/
structure TagDraft where
  name : List Char
  attributes : List (List Char × List Char)
  key : List Char
  value : List Char

namespace TagDraft

/-- The draft with the attribute that has been read, unless its name came before. -/
def finish (d : TagDraft) : TagDraft :=
  if d.key.isEmpty || d.attributes.any (·.1 = d.key) then { d with key := [], value := [] }
  else { d with attributes := (d.key, d.value) :: d.attributes, key := [], value := [] }

/-- The draft with a character more in the name of an attribute. -/
def pushKey (d : TagDraft) (c : Char) : TagDraft :=
  { d with key := replaceNul c.toLower :: d.key }

/-- The draft with a character more in the value of an attribute. -/
def pushValue (d : TagDraft) (c : Char) : TagDraft :=
  { d with value := replaceNul c :: d.value }

/-- The tag of a draft. -/
def tag (d : TagDraft) (closed : Bool) : Tag where
  name := String.ofList d.name.reverse
  attributes := (d.finish.attributes.map fun (key, value) =>
    (String.ofList key.reverse, String.ofList (unescaped value.reverse))).reverse
  closed := closed

/-- The reader after a character in front of an attribute. -/
def beforeAttribute (d : TagDraft) (c : Char) : TagPlace × TagDraft :=
  if isSpace c then (.beforeAttribute, d)
  else if c = '/' then (.slash, d)
  else (.attribute, d.pushKey c)

/-- The reader after a character of a tag that does not end it. -/
def step (place : TagPlace) (d : TagDraft) (c : Char) : TagPlace × TagDraft :=
  match place with
  | .name =>
      if isSpace c then (.beforeAttribute, d)
      else if c = '/' then (.slash, d)
      else (.name, { d with name := replaceNul c.toLower :: d.name })
  | .beforeAttribute => d.beforeAttribute c
  | .slash => d.beforeAttribute c
  | .afterValue => d.finish.beforeAttribute c
  | .attribute =>
      if isSpace c then (.afterAttribute, d)
      else if c = '/' then (.slash, d.finish)
      else if c = '=' then (.beforeValue, d)
      else (.attribute, d.pushKey c)
  | .afterAttribute =>
      if isSpace c then (.afterAttribute, d)
      else if c = '=' then (.beforeValue, d)
      else d.finish.beforeAttribute c
  | .beforeValue =>
      if isSpace c then (.beforeValue, d)
      else if c = '"' || c = '\'' then (.quoted c, d)
      else (.unquoted, d.pushValue c)
  | .quoted quote => if c = quote then (.afterValue, d) else (.quoted quote, d.pushValue c)
  | .unquoted =>
      if isSpace c then (.beforeAttribute, d.finish) else (.unquoted, d.pushValue c)

/-- The rest of a tag and what follows; a text that ends first has no tag. -/
def read (place : TagPlace) (d : TagDraft) : List Char → Option (Tag × List Char)
  | [] => none
  | c :: cs =>
      match place, c with
      | .quoted _, _ =>
          let (place, d) := d.step place c
          read place d cs
      | .slash, '>' => some (d.tag true, cs)
      | _, '>' => some (d.tag false, cs)
      | _, _ =>
          let (place, d) := d.step place c
          read place d cs

end TagDraft

/-- The tag whose name a text begins with, and what follows it. -/
def readTag (cs : List Char) : Option (Tag × List Char) :=
  TagDraft.read .name ⟨[], [], [], []⟩ cs

/-! ### Comments -/

/-- What follows the end of a comment. -/
def afterComment : List Char → List Char
  | [] => []
  | '-' :: '-' :: '>' :: cs => cs
  | '-' :: '-' :: '!' :: '>' :: cs => cs
  | _ :: cs => afterComment cs

/-- What follows a comment of which two hyphens have been read. -/
def skipComment : List Char → List Char
  | '>' :: cs => cs
  | '-' :: '>' :: cs => cs
  | cs => afterComment cs

/-- What follows a declaration that is none. -/
def skipDeclaration (cs : List Char) : List Char :=
  (cs.dropWhile (· ≠ '>')).drop 1

/-! ### Text without markup -/

/-- Whether a text begins with a name, in any case, that ends there. -/
def beginsWithName (name : String) (cs : List Char) : Bool :=
  (cs.take name.length).map Char.toLower = name.toList &&
    (cs[name.length]?.any fun c => isSpace c || c = '/' || c = '>')

/-- What follows the text of an element, from its end tag on. -/
def skipRaw (name : String) : List Char → List Char
  | [] => []
  | c :: cs =>
      if c = '<' && cs.head? = some '/' && beginsWithName name (cs.drop 1) then c :: cs
      else skipRaw name cs

/-- Where in a script a reader is: in its text, in what looks like a comment, or in what looks
like a script inside one; with the number of hyphens just read. -/
inductive ScriptPlace where
  | plain
  | commented (hyphens : Nat)
  | nested (hyphens : Nat)

/-- The name of the element that holds a script. -/
def scriptName : String := "script"

/-- What follows the text of a script, from its end tag on. -/
def skipScriptFrom : ScriptPlace → List Char → List Char
  | _, [] => []
  | .plain, c :: cs =>
      if c = '<' && cs.head? = some '/' && beginsWithName scriptName (cs.drop 1) then c :: cs
      else if c = '<' && cs.take 3 = ['!', '-', '-'] then skipScriptFrom (.commented 0) cs
      else skipScriptFrom .plain cs
  | .commented n, c :: cs =>
      if c = '<' && cs.head? = some '/' && beginsWithName scriptName (cs.drop 1) then c :: cs
      else if c = '<' && beginsWithName scriptName cs then skipScriptFrom (.nested 0) cs
      else if c = '>' && 2 ≤ n then skipScriptFrom .plain cs
      else skipScriptFrom (.commented (if c = '-' then n + 1 else 0)) cs
  | .nested n, c :: cs =>
      if c = '<' && cs.head? = some '/' && beginsWithName scriptName (cs.drop 1) then
        skipScriptFrom (.commented 0) cs
      else if c = '>' && 2 ≤ n then skipScriptFrom .plain cs
      else skipScriptFrom (.nested (if c = '-' then n + 1 else 0)) cs

/-- What follows the text of a script. -/
def skipScript (cs : List Char) : List Char :=
  skipScriptFrom .plain cs

/-! ### Tokens -/

/-- Characters as tokens. -/
def charTokens (cs : List Char) : List Token :=
  cs.map .char

/-- The tokens behind `<!`. Only inside elements of other vocabularies does `<![CDATA[` begin
text. -/
def declaration (foreign : Bool) (cs : List Char) : List Token × List Char :=
  match cs with
  | '-' :: '-' :: rest => ([.comment], skipComment rest)
  | _ =>
      if (cs.take 7).map Char.toLower = "doctype".toList then
        let (d, rest) := Doctype.read (cs.drop 7)
        ([.doctype d.isLegacy], rest)
      else if foreign && cs.take 7 = "[CDATA[".toList then
        match splitAtFirst "]]>".toList (cs.drop 7) with
        | some (text, rest) => (charTokens text, rest)
        | none => (charTokens (cs.drop 7), [])
      else ([.comment], skipDeclaration cs)

/-- The tokens behind `<`. -/
def markup (foreign : Bool) (cs : List Char) : List Token × List Char :=
  match cs with
  | [] => ([.char '<'], [])
  | '!' :: rest => declaration foreign rest
  | '?' :: _ => ([.comment], skipDeclaration cs)
  | '/' :: [] => ([.char '<', .char '/'], [])
  | '/' :: '>' :: rest => ([.comment], rest)
  | '/' :: c :: rest =>
      if c.isAlpha then
        match readTag (c :: rest) with
        | some (tag, rest) => ([.close tag.name], rest)
        | none => ([], [])
      else ([.comment], skipDeclaration (c :: rest))
  | c :: rest =>
      if c.isAlpha then
        match readTag (c :: rest) with
        | some (tag, rest) => ([.start tag], rest)
        | none => ([], [])
      else ([.char '<'], c :: rest)

/-- The tokens behind `&`. -/
def reference (cs : List Char) : List Token × List Char :=
  match reference? cs with
  | some r => (charTokens r.chars, cs.drop r.length)
  | none => ([.char '&'], cs)

/-- The tokens at the front of a text that is not empty, and what follows them. -/
def nextTokens (foreign : Bool) (c : Char) (cs : List Char) : List Token × List Char :=
  if c = '<' then markup foreign cs
  else if c = '&' then reference cs
  else ([.char c], cs)

end Wayfarer.Html
