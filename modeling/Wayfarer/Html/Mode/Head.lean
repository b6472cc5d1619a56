import Wayfarer.Html.Formatting

/-!
The beginning of a document and its head.

* `Html.Builder.readStart`, `Html.Builder.readBeforeHtml`, `Html.Builder.readBeforeHead`: what
  stands before the head;
* `Html.Builder.readHead`, `Html.Builder.readHeadNoscript`, `Html.Builder.readAfterHead`: the head
  and what follows it.
-/

namespace Wayfarer.Html.Builder

/-- The end tags that imply what is missing before the body. -/
def bodyEnds : List String :=
  ["body", "html", "br"]

/-- The elements of a head that are empty. -/
def emptyHeadParts : List String :=
  ["base", "basefont", "bgsound", "link", "meta"]

/-- The elements of a head that hold text only. -/
def textHeadParts : List String :=
  ["noframes", "script", "style", "title"]

/-! ### Before the head -/

/-- What may precede a document. A document without a type is a legacy one. -/
def readStart (b : Builder) : Token → Step
  | .doctype legacy => { b with legacy := legacy, mode := .beforeHtml }.done
  | .char c => if isWhite c then b.done else { b with legacy := true }.again .beforeHtml
  | _ => { b with legacy := true }.again .beforeHtml

/-- The outermost element, and how many elements there are with it. -/
def pushRoot (b : Builder) (attributes : List (String × String)) : Builder :=
  b.push ⟨.html, "html"⟩ attributes

/-- What stands before the outermost element. -/
def readBeforeHtml (b : Builder) : Token → Step
  | .char c => if isWhite c then b.done else (b.pushRoot []).again .beforeHead
  | .start tag =>
      if tag.name = "html" then ((b.pushRoot tag.attributes).enter .beforeHead).done
      else (b.pushRoot []).again .beforeHead
  | .close name =>
      if name = "head" || bodyEnds.contains name then (b.pushRoot []).again .beforeHead
      else b.done
  | _ => (b.pushRoot []).again .beforeHead

/-- The builder with an open head. -/
def pushHead (b : Builder) (tag : Tag) : Builder :=
  { b.pushTag tag with head := some b.nodes.size }

/-- A head that no tag stands for. -/
def implyHead (b : Builder) : Step :=
  (b.pushHead ⟨"head", [], false⟩).again .head

/-- What stands before the head. -/
def readBeforeHead (b : Builder) : Token → Step
  | .char c => if isWhite c then b.done else b.implyHead
  | .start tag =>
      if tag.name = "html" then b.done
      else if tag.name = "head" then ((b.pushHead tag).enter .head).done
      else b.implyHead
  | .close name => if name = "head" || bodyEnds.contains name then b.implyHead else b.done
  | _ => b.implyHead

/-! ### Templates -/

/-- Opens a template. -/
def openTemplate (b : Builder) (tag : Tag) : Builder :=
  let b := b.markFormats.forbidFrameset
  { b with mode := .template, templates := .template :: b.templates }.pushTag tag

/-- Leaves the innermost template, which has been closed. -/
def leaveTemplate (b : Builder) : Builder :=
  let b := { b.clearFormats with templates := b.templates.drop 1 }
  b.enter b.modeOfStack

/-- Closes the innermost template for its end tag. -/
def closeTemplate (b : Builder) : Builder :=
  if b.hasOpen "template" then
    ((b.popWhile (·.isOne omissibleInTemplate)).popThrough ["template"]).leaveTemplate
  else b

/-! ### The head -/

/-- The end of a head. -/
def leaveHead (b : Builder) : Step :=
  b.pop.again .afterHead

/-- The head of a document. -/
def readHead (b : Builder) : Token → Step
  | .char c => if isWhite c then b.done else b.leaveHead
  | .start tag =>
      if tag.name = "html" || tag.name = "head" then b.done
      else if emptyHeadParts.contains tag.name then (b.addTag tag).done
      else if textHeadParts.contains tag.name then b.addText tag
      else if tag.name = "noscript" then ((b.pushTag tag).enter .headNoscript).done
      else if tag.name = "template" then (b.openTemplate tag).done
      else b.leaveHead
  | .close name =>
      if name = "head" then (b.pop.enter .afterHead).done
      else if name = "template" then b.closeTemplate.done
      else if bodyEnds.contains name then b.leaveHead
      else b.done
  | _ => b.leaveHead

/-- What a head shows where scripts are not run. -/
def readHeadNoscript (b : Builder) : Token → Step
  | .char c => if isWhite c then b.done else b.pop.again .head
  | .start tag =>
      if ["html", "head", "noscript"].contains tag.name then b.done
      else if ["basefont", "bgsound", "link", "meta", "noframes", "style"].contains tag.name then
        b.readHead (.start tag)
      else b.pop.again .head
  | .close name =>
      if name = "noscript" then (b.pop.enter .head).done
      else if name = "br" then b.pop.again .head
      else b.done
  | _ => b.pop.again .head

/-- A part of the head that stands behind it. -/
def readLateHeadPart (b : Builder) (t : Token) : Step :=
  match b.head with
  | none => b.readHead t
  | some head =>
      let (b, next) := { b with stack := head :: b.stack }.readHead t
      (b.unstack head, next)

/-- What stands between the head and the body. -/
def readAfterHead (b : Builder) : Token → Step
  | .char c => if isWhite c then b.done else (b.pushName "body").again .body
  | .start tag =>
      if tag.name = "html" || tag.name = "head" then b.done
      else if tag.name = "body" then ((b.pushTag tag).forbidFrameset.enter .body).done
      else if tag.name = "frameset" then ((b.pushTag tag).enter .frameset).done
      else if headParts.contains tag.name then b.readLateHeadPart (.start tag)
      else (b.pushName "body").again .body
  | .close name =>
      if name = "template" then b.readHead (.close name)
      else if bodyEnds.contains name then (b.pushName "body").again .body
      else b.done
  | _ => (b.pushName "body").again .body

end Wayfarer.Html.Builder
