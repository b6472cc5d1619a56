import Wayfarer.Html.Token
import Wayfarer.Html.Vocabulary

/-!
The state of a document under construction.

* `Html.Node`: an element with the element that it is below;
* `Html.Mode`: which part of a document is being read;
* `Html.Builder`: the elements so far, and which of them are open;
* `Html.Builder.inScope`: searches among the open elements;
* `Html.Builder.pushTag`, `Html.Builder.addTag`: new elements, left open or closed at once;
* `Html.Builder.modeOfStack`: the mode that the open elements call for.
-/

namespace Wayfarer.Html

/-- An element of a document under construction and the element that it is below. -/
structure Node where
  kind : Kind
  attributes : List (String × String)
  parent : Option Nat

/-- The part of a document that is being read. -/
inductive Mode where
  | start
  | beforeHtml
  | beforeHead
  | head
  | headNoscript
  | afterHead
  | body
  | table
  | tableText
  | caption
  | columns
  | rowGroup
  | row
  | cell
  | select
  | selectInTable
  | template
  | afterBody
  | frameset
  | afterFrameset
  | afterDocument
  | afterFramesetDocument
deriving Repr, DecidableEq

/-- An element that formats what follows, with its tag, or a mark that ends a search for such. -/
inductive Formatting where
  | mark
  | element (node : Nat) (tag : Tag)

/-- A document under construction. Elements are numbered in the order of creation; `stack` are the
open ones, innermost first, and `formatting` those that format what follows, newest first. -/
structure Builder where
  nodes : Array Node
  stack : List Nat
  formatting : List Formatting
  mode : Mode
  modeAfterText : Mode
  templates : List Mode
  head : Option Nat
  form : Option Nat
  framesetAllowed : Bool
  fostering : Bool
  legacy : Bool
  skipsNewline : Bool
  tableText : List Char

/-- A document of which nothing has been read. -/
def Builder.empty : Builder where
  nodes := #[]
  stack := []
  formatting := []
  mode := .start
  modeAfterText := .start
  templates := []
  head := none
  form := none
  framesetAllowed := true
  fostering := false
  legacy := false
  skipsNewline := false
  tableText := []

/-- What a token leaves to be done: nothing, the same token in a new mode, or to pass over the text
of an element that holds no markup. -/
inductive Next where
  | done
  | again
  | text (name : String)
deriving Repr, DecidableEq

/-- A builder after a token, and what is left to be done. -/
abbrev Step := Builder × Next

namespace Builder

/-! ### Outcomes -/

/-- A token that is dealt with. -/
def done (b : Builder) : Step :=
  (b, .done)

/-- The builder in another mode. -/
def enter (b : Builder) (mode : Mode) : Builder :=
  { b with mode := mode }

/-- A token to be read again in another mode. -/
def again (b : Builder) (mode : Mode) : Step :=
  (b.enter mode, .again)

/-- The builder of a document that can no more turn out to be a set of frames. -/
def forbidFrameset (b : Builder) : Builder :=
  { b with framesetAllowed := false }

/-! ### Open elements -/

/-- The kind of an element. -/
def kind (b : Builder) (i : Nat) : Kind :=
  (b.nodes[i]?.map (·.kind)).getD ⟨.html, ""⟩

/-- Whether an element has one of some names of documents. -/
def isOne (b : Builder) (names : List String) (i : Nat) : Bool :=
  (b.kind i).isOne names

/-- Whether the innermost open element has one of some names. -/
def currentIsOne (b : Builder) (names : List String) : Bool :=
  b.stack.head?.any (b.isOne names)

/-- Whether an open element has a name. -/
def hasOpen (b : Builder) (name : String) : Bool :=
  b.stack.any (b.isOne [name])

/-- Whether a search among the open elements meets one that passes a test before the scope ends. -/
def inScope (b : Builder) (scope : Scope) (p : Nat → Bool) : Bool :=
  (b.stack.find? fun i => p i || scope.endsAt (b.kind i)).any p

/-- Whether an open element in scope has one of some names. -/
def hasInScope (b : Builder) (scope : Scope) (names : List String) : Bool :=
  b.inScope scope (b.isOne names)

/-! ### Closing elements -/

/-- Closes the innermost open element. -/
def pop (b : Builder) : Builder :=
  { b with stack := b.stack.drop 1 }

/-- Closes open elements from the innermost on while they pass a test. -/
def popWhile (b : Builder) (p : Kind → Bool) : Builder :=
  { b with stack := b.stack.dropWhile fun i => p (b.kind i) }

/-- Closes open elements down to one of some names, which stays open. -/
def popTo (b : Builder) (names : List String) : Builder :=
  b.popWhile fun k => !k.isOne names

/-- Closes open elements down to one of some names and that one too. -/
def popThrough (b : Builder) (names : List String) : Builder :=
  (b.popTo names).pop

/-- Closes open elements whose end tag may be left out, but none of a name. -/
def closeOmissible (b : Builder) (except : String) : Builder :=
  b.popWhile fun k => k.isOne omissible && k.name ≠ except

/-- Closes an open element of one of some names and all that is open below it. -/
def close (b : Builder) (names : List String) : Builder :=
  (b.closeOmissible "").popThrough names

/-- Closes a paragraph. -/
def closeParagraph (b : Builder) : Builder :=
  (b.closeOmissible "p").popThrough ["p"]

/-- Closes a paragraph if one is open. -/
def endParagraph (b : Builder) : Builder :=
  if b.hasInScope .button ["p"] then b.closeParagraph else b

/-- Closes one open element, wherever it is. -/
def unstack (b : Builder) (i : Nat) : Builder :=
  { b with stack := b.stack.erase i }

/-- Closes for an end tag the innermost open element of its name, unless a special one is open
below it. -/
def closeNamed (b : Builder) (name : String) : Builder :=
  match b.stack.find? fun i => b.isOne [name] i || (b.kind i).isSpecial with
  | some i => if b.isOne [name] i then { b with stack := (b.stack.dropWhile (· ≠ i)).drop 1 } else b
  | none => b

/-! ### New elements -/

/-- The element that what is fostered goes below: the parent of the innermost table, or an inner
template. -/
def fosterParent? (b : Builder) : List Nat → Option Nat
  | [] => b.stack.getLast?
  | i :: outer =>
      if b.isOne ["template"] i then some i
      else if b.isOne ["table"] i then
        match b.nodes[i]?.bind (·.parent) with
        | some p => some p
        | none => outer.head?
      else b.fosterParent? outer

/-- The element that a new element meant for `target` goes below. -/
def parentFor? (b : Builder) (target : Nat) : Option Nat :=
  if b.fostering && b.isOne tableFrames target then b.fosterParent? b.stack else some target

/-- Creates an element below another, or below none. Its number is the number of elements so far. -/
def create (b : Builder) (kind : Kind) (attributes : List (String × String))
    (parent : Option Nat) : Builder :=
  { b with nodes := b.nodes.push ⟨kind, attributes, parent⟩ }

/-- Adds an element below the innermost open one. -/
def add (b : Builder) (kind : Kind) (attributes : List (String × String)) : Builder :=
  b.create kind attributes (b.stack.head?.bind b.parentFor?)

/-- Adds an element and leaves it open. -/
def push (b : Builder) (kind : Kind) (attributes : List (String × String)) : Builder :=
  { b.add kind attributes with stack := b.nodes.size :: b.stack }

/-- Adds the element of a tag and leaves it open. -/
def pushTag (b : Builder) (tag : Tag) : Builder :=
  b.push ⟨.html, tag.name⟩ tag.attributes

/-- Adds an element that no tag stands for and leaves it open. -/
def pushName (b : Builder) (name : String) : Builder :=
  b.push ⟨.html, name⟩ []

/-- Adds the element of a tag. -/
def addTag (b : Builder) (tag : Tag) : Builder :=
  b.add ⟨.html, tag.name⟩ tag.attributes

/-- Adds the element of a tag, the text of which is to be passed over. -/
def addText (b : Builder) (tag : Tag) : Step :=
  (b.addTag tag, .text tag.name)

/-- Moves an element below another. -/
def move (b : Builder) (i : Nat) (parent : Option Nat) : Builder :=
  { b with nodes := b.nodes.modify i fun node => { node with parent := parent } }

/-- Moves all that is directly below an element below another. -/
def moveAll (b : Builder) (old new : Nat) : Builder :=
  { b with nodes := b.nodes.map fun node =>
      if node.parent = some old then { node with parent := some new } else node }

/-! ### Modes -/

/-- The mode inside a list of choices, by the open elements around it. -/
def selectMode (b : Builder) : List Nat → Mode
  | [] => .select
  | i :: outer =>
      if b.isOne ["template"] i then .select
      else if b.isOne ["table"] i then .selectInTable
      else b.selectMode outer

/-- The mode that open elements call for, the innermost first. -/
def modeOf (b : Builder) : List Nat → Mode
  | [] => .body
  | i :: outer =>
      if b.isOne ["select"] i then b.selectMode outer
      else if b.isOne cells i then .cell
      else if b.isOne ["tr"] i then .row
      else if b.isOne rowGroups i then .rowGroup
      else if b.isOne ["caption"] i then .caption
      else if b.isOne ["colgroup"] i then .columns
      else if b.isOne ["table"] i then .table
      else if b.isOne ["template"] i then b.templates.headD .body
      else if b.isOne ["head"] i then .head
      else if b.isOne ["body"] i then .body
      else if b.isOne ["frameset"] i then .frameset
      else if b.isOne ["html"] i then (if b.head.isSome then .afterHead else .beforeHead)
      else b.modeOf outer

/-- The mode that the open elements call for. -/
def modeOfStack (b : Builder) : Mode :=
  b.modeOf b.stack

end Builder

/-- Whether a character of a text is white space. -/
def isWhite (c : Char) : Bool :=
  isSpace c || c = '\r'

end Wayfarer.Html
