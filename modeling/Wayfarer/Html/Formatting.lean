import Wayfarer.Html.Builder

/-!
Formatting that goes on across blocks.

* `Html.Builder.reopen`: opens again what still formats;
* `Html.Builder.pushFormat`: opens an element that formats what follows; of equal ones the last
  three count;
* `Html.Builder.endFormat`: closes such an element, and moves what was nested wrongly.
-/

namespace Wayfarer.Html

namespace Formatting

/-- Whether an entry is a mark. -/
def isMark : Formatting → Bool
  | mark => true
  | element _ _ => false

/-- The element of an entry. -/
def node? : Formatting → Option Nat
  | mark => none
  | element i _ => some i

end Formatting

/-- Two tags of one name and the same attributes, in any order. -/
def Tag.agrees (t u : Tag) : Bool :=
  t.name = u.name && t.attributes.length = u.attributes.length &&
    t.attributes.all u.attributes.contains

namespace Builder

/-! ### The list of formats -/

/-- Puts a mark into the list. -/
def markFormats (b : Builder) : Builder :=
  { b with formatting := .mark :: b.formatting }

/-- Takes everything up to the last mark, and that too, off the list. -/
def clearFormats (b : Builder) : Builder :=
  { b with formatting := (b.formatting.dropWhile (!·.isMark)).drop 1 }

/-- The entries after the last mark, newest first. -/
def recentFormats (b : Builder) : List (Nat × Tag) :=
  (b.formatting.takeWhile (!·.isMark)).filterMap fun
    | .mark => none
    | .element i tag => some (i, tag)

/-- The tag by which an element is on the list. -/
def format? (b : Builder) (i : Nat) : Option Tag :=
  b.formatting.findSome? fun
    | .mark => none
    | .element j tag => if j = i then some tag else none

/-- Takes an element off the list. -/
def unformat (b : Builder) (i : Nat) : Builder :=
  { b with formatting := b.formatting.filter (·.node? ≠ some i) }

/-- Puts another element into the place of one on the list. -/
def reformat (b : Builder) (i : Nat) (entry : Formatting) : Builder :=
  { b with formatting := b.formatting.map fun e => if e.node? = some i then entry else e }

/-- Puts an element into the list, as newer than one on it. -/
def formatAfter (b : Builder) (i : Nat) (entry : Formatting) : Builder :=
  { b with
    formatting := b.formatting.flatMap fun e => if e.node? = some i then [entry, e] else [e] }

/-! ### Opening -/

/-- Whether an entry needs not be opened again. -/
def isSettled (b : Builder) : Formatting → Bool
  | .mark => true
  | .element i _ => b.stack.contains i

/-- Opens again the elements at the end of the list that are no more open, oldest first. -/
def reopen (b : Builder) : Builder :=
  let closed := b.formatting.takeWhile (!b.isSettled ·)
  closed.foldr
    (fun entry b =>
      match entry with
      | .mark => b
      | .element _ tag =>
          let i := b.nodes.size
          let b := b.pushTag tag
          { b with formatting := .element i tag :: b.formatting })
    { b with formatting := b.formatting.drop closed.length }

/-- Opens an element that formats what follows. If three recent ones agree with it, the oldest of
them stops to. -/
def pushFormat (b : Builder) (tag : Tag) : Builder :=
  let twins := b.recentFormats.filter (·.2.agrees tag)
  let b :=
    match twins.getLast? with
    | some (oldest, _) => if 3 ≤ twins.length then b.unformat oldest else b
    | none => b
  let i := b.nodes.size
  let b := b.pushTag tag
  { b with formatting := .element i tag :: b.formatting }

/-! ### Closing -/

/-- Where the formatting that is taken apart goes on the list: in the place of an element, or as
newer than one. -/
inductive Bookmark where
  | replacing (node : Nat)
  | newerThan (node : Nat)

/-- A walk from a block out to the format around it: what has been moved last, where the format goes
on the list, and the elements that stay open, outermost first. -/
structure Unnesting where
  builder : Builder
  last : Nat
  bookmark : Bookmark
  kept : List Nat

/-- One element on the way from a block out to a format. Of those that format too the first three
are renewed; all others are closed. -/
def unnest (block : Nat) (w : Unnesting) (i count : Nat) : Unnesting :=
  match w.builder.format? i with
  | none => w
  | some tag =>
      if 3 ≤ count then { w with builder := w.builder.unformat i }
      else
        let j := w.builder.nodes.size
        let b := w.builder.create ⟨.html, tag.name⟩ tag.attributes none
        { builder := (b.reformat i (.element j tag)).move w.last (some j)
          last := j
          bookmark := if w.last = block then .newerThan j else w.bookmark
          kept := j :: w.kept }

/-- Puts a renewed format inside the block that it was around. -/
def invert (b : Builder) (node : Nat) (tag : Tag) (block : Nat) : Builder :=
  let inner := b.stack.takeWhile (· ≠ block)
  let between := ((b.stack.dropWhile (· ≠ block)).drop 1).takeWhile (· ≠ node)
  let outer := (b.stack.dropWhile (· ≠ node)).drop 1
  let w := between.zipIdx.foldl (fun w (i, count) => unnest block w i count)
    ⟨b, block, .replacing node, []⟩
  let b := w.builder.move w.last (outer.head?.bind w.builder.parentFor?)
  let i := b.nodes.size
  let b := (b.moveAll block i).create ⟨.html, tag.name⟩ tag.attributes (some block)
  let b :=
    match w.bookmark with
    | .replacing j => b.reformat j (.element i tag)
    | .newerThan j => (b.formatAfter j (.element i tag)).unformat node
  { b with stack := inner ++ i :: block :: (w.kept.reverse ++ outer) }

/-- Closes the newest format of a name, round after round while blocks are open inside it. -/
def endFormatIn (b : Builder) (name : String) : Nat → Builder
  | 0 => b
  | rounds + 1 =>
      match b.recentFormats.find? (·.2.name = name) with
      | none => b.closeNamed name
      | some (node, tag) =>
          if !b.stack.contains node then b.unformat node
          else if !b.inScope .ordinary (· = node) then b
          else
            let inside := b.stack.takeWhile (· ≠ node)
            match inside.reverse.find? fun i => (b.kind i).isSpecial with
            | none => { b with stack := (b.stack.dropWhile (· ≠ node)).drop 1 }.unformat node
            | some block => (b.invert node tag block).endFormatIn name rounds

/-- Closes for an end tag an element that formats what follows. At most eight rounds are made. -/
def endFormat (b : Builder) (name : String) : Builder :=
  if b.currentIsOne [name] && !(b.stack.head?.any fun i => (b.format? i).isSome) then b.pop
  else b.endFormatIn name 8

/-- Closes an anchor in which another one begins. -/
def endAnchor (b : Builder) : Builder :=
  match b.recentFormats.find? fun (i, _) => b.isOne ["a"] i with
  | some (i, _) => ((b.endFormat "a").unformat i).unstack i
  | none => b

end Builder

end Wayfarer.Html
