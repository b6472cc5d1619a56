import Wayfarer.Html.Document
import Wayfarer.Html.Mode.Select

/-!
Documents from texts.

* `Html.Builder.read`: a token in the mode that a builder is in, or in another vocabulary;
* `Html.Builder.run`: all tokens of a text;
* `Html.Builder.forest`: the elements of a builder as trees;
* `Html.parse`: the trees of a text.
-/

namespace Wayfarer.Html

namespace Builder

/-! ### One token -/

/-- A token in the mode that a builder is in. -/
def readInMode (b : Builder) (t : Token) : Step :=
  match b.mode with
  | .start => b.readStart t
  | .beforeHtml => b.readBeforeHtml t
  | .beforeHead => b.readBeforeHead t
  | .head => b.readHead t
  | .headNoscript => b.readHeadNoscript t
  | .afterHead => b.readAfterHead t
  | .body => b.readBody t
  | .table => b.readTable t
  | .tableText => b.readTableText t
  | .caption => b.readCaption t
  | .columns => b.readColumns t
  | .rowGroup => b.readRowGroup t
  | .row => b.readRow t
  | .cell => b.readCell t
  | .select => b.readSelect t
  | .selectInTable => b.readSelectInTable t
  | .template => b.readTemplate t
  | .afterBody => b.readAfterBody t
  | .frameset => b.readFrameset t
  | .afterFrameset => b.readAfterFrameset t
  | .afterDocument => b.readAfterDocument t
  | .afterFramesetDocument => b.readAfterFramesetDocument t

/-- The kind of the innermost open element. -/
def current (b : Builder) : Kind :=
  (b.stack.head?.map b.kind).getD ⟨.html, ""⟩

/-- Whether the innermost open element is of another vocabulary. -/
def isAbroad (b : Builder) : Bool :=
  b.current.vocabulary ≠ .html

/-- Whether a token belongs to the other vocabulary of the innermost open element. -/
def isForeign (b : Builder) (t : Token) : Bool :=
  let k := b.current
  b.isAbroad &&
    match t with
    | .done => false
    | .char _ => !k.isTextHost && !k.isMarkupHost
    | .start tag =>
        !(k.isTextHost && tag.name ≠ "mglyph" && tag.name ≠ "malignmark") && !k.isMarkupHost &&
          !(k = ⟨.math, "annotation-xml"⟩ && tag.name = "svg")
    | _ => true

/-- Leaves the other vocabulary in front of a tag that is none of it. -/
def comeHome (b : Builder) (t : Token) : Step :=
  (b.popWhile fun k => k.vocabulary ≠ .html && !k.isTextHost && !k.isMarkupHost).readInMode t

/-- Whether a tag of no other vocabulary begins an element of documents. -/
def isHomecoming (tag : Tag) : Bool :=
  homecomings.contains tag.name ||
    (tag.name = "font" && tag.attributes.any fun a => ["color", "face", "size"].contains a.1)

/-- An end tag in another vocabulary, with the open elements from which on one of its name is looked
for, innermost first. The outermost element stays open. -/
def closeForeign (b : Builder) (name : String) : List Nat → Step
  | [] => b.done
  | [_] => b.done
  | i :: outer =>
      let k := b.kind i
      if k.vocabulary = .html then b.readInMode (.close name)
      else if k.name = name then { b with stack := outer }.done
      else b.closeForeign name outer

/-- A token that belongs to the other vocabulary of the innermost open element. -/
def readForeign (b : Builder) (t : Token) : Step :=
  match t with
  | .char c => (if isWhite c || c = '\x00' then b else b.forbidFrameset).done
  | .start tag =>
      if isHomecoming tag then b.comeHome t
      else (b.addForeign b.current.vocabulary tag).done
  | .close name =>
      if name = "br" || name = "p" then b.comeHome t else b.closeForeign name b.stack
  | _ => b.done

/-- Reads a token, in several modes one after the other if need be. -/
def readOn (t : Token) : Nat → Builder → Step
  | 0, b => b.done
  | rounds + 1, b =>
      match if b.isForeign t then b.readForeign t else b.readInMode t with
      | (b, .again) => readOn t rounds b
      | step => step

/-- Reads a token. Each round but a few closes an element or a template. -/
def read (b : Builder) (t : Token) : Step :=
  let skipped := b.skipsNewline && match t with | .char c => c = '\n' | _ => false
  let b := { b with skipsNewline := false }
  match t with
  | .comment => b.done
  | .doctype _ => if b.mode = .start then b.readStart t else b.done
  | _ =>
      if skipped then b.done
      else readOn t (4 * (b.stack.length + b.templates.length) + 16) b

/-! ### All tokens -/

/-- What follows the text of an element that holds no markup, and its end tag. -/
def afterText (name : String) (cs : List Char) : List Char :=
  if name = "plaintext" then []
  else
    let rest := if name = scriptName then skipScript cs else skipRaw name cs
    ((readTag (rest.drop 2)).map (·.2)).getD []

/-- Reads the tokens at the front of a text; what is left is what follows them. -/
def readAll (b : Builder) (tokens : List Token) (rest : List Char) : Builder × List Char :=
  tokens.foldl
    (fun (b, rest) t =>
      match b.read t with
      | (b, .text name) => (b, afterText name rest)
      | (b, _) => (b, rest))
    (b, rest)

/-- Reads a text to its end. Each round takes a character at least. -/
def run (b : Builder) : Nat → List Char → Builder
  | 0, _ => b
  | _ + 1, [] => (b.read .done).1
  | rounds + 1, c :: cs =>
      let (tokens, rest) := nextTokens b.isAbroad c cs
      let (b, rest) := b.readAll tokens rest
      b.run rounds rest

/-! ### Trees -/

/-- For each element the elements directly below it, in the order of creation. -/
def below (b : Builder) : Array (List Nat) :=
  b.nodes.toList.zipIdx.reverse.foldl
    (fun lists (node, i) =>
      match node.parent with
      | some p => lists.modify p (i :: ·)
      | none => lists)
    (Array.replicate b.nodes.size [])

/-- The tree of an element, down to some depth. -/
def tree (b : Builder) (below : Array (List Nat)) : Nat → Nat → Tree
  | depth, i =>
      let element : Element :=
        match b.nodes[i]? with
        | some node => ⟨node.kind.name, node.attributes⟩
        | none => ⟨"", []⟩
      match depth with
      | 0 => .node i element []
      | depth + 1 => .node i element ((below.getD i []).map (b.tree below depth))

/-- The elements of a builder as trees: the outermost element and what has been taken out of it.
Siblings are in the order of creation. -/
def forest (b : Builder) : List Tree :=
  let below := b.below
  (b.nodes.toList.zipIdx.filter (·.1.parent.isNone)).map fun (_, i) =>
    b.tree below b.nodes.size i

end Builder

/-- The line ends of a text made one kind, and no mark of byte order in front. -/
def normalLines : List Char → List Char
  | [] => []
  | '\r' :: '\n' :: cs => '\n' :: normalLines cs
  | '\r' :: cs => '\n' :: normalLines cs
  | c :: cs => c :: normalLines cs

/-- The trees of a text. -/
def parse (text : List Char) : List Tree :=
  let text := if text.head? = some '\uFEFF' then text.drop 1 else text
  let text := normalLines text
  (Builder.empty.run (text.length + 1) text).forest

end Wayfarer.Html
