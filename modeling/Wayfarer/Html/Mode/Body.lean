import Wayfarer.Html.Mode.Head

/-!
The body of a document.

* `Html.Builder.readBody`: a token of the body;
* `Html.Builder.leaveOpenTemplate`: the end of a text inside a template.
-/

namespace Wayfarer.Html.Builder

/-! ### Groups of names -/

/-- The elements that set off what is formatted inside them. -/
def enclosures : List String :=
  ["applet", "marquee", "object"]

/-- Empty elements that are part of a line. -/
def emptyInlines : List String :=
  ["area", "br", "embed", "img", "input", "keygen", "wbr"]

/-- Empty elements that belong to the one around them. -/
def emptyParts : List String :=
  ["param", "source", "track"]

/-- The parts of a document that cannot begin in a body. -/
def misplaced : List String :=
  ["caption", "col", "colgroup", "frame", "head", "tbody", "td", "tfoot", "th", "thead", "tr"]

/-- The value of an attribute of a tag. -/
def attributeOf? (tag : Tag) (name : String) : Option String :=
  (tag.attributes.find? (·.1 = name)).map (·.2)

/-- Whether a tag is one of a hidden field. -/
def isHidden (tag : Tag) : Bool :=
  (attributeOf? tag "type").any (sameLetters · "hidden")

/-! ### Start tags -/

/-- Adds an empty element of a line. -/
def addInline (b : Builder) (tag : Tag) : Builder :=
  let b := b.reopen.addTag tag
  if tag.name = "input" && isHidden tag then b else b.forbidFrameset

/-- Opens an element of a line. -/
def pushInline (b : Builder) (tag : Tag) : Builder :=
  b.reopen.pushTag tag

/-- Opens a block. -/
def pushBlock (b : Builder) (tag : Tag) : Builder :=
  b.endParagraph.pushTag tag

/-- Opens a heading. -/
def pushHeading (b : Builder) (tag : Tag) : Builder :=
  let b := b.endParagraph
  (if b.currentIsOne headings then b.pop else b).pushTag tag

/-- Opens a form, unless one is open. -/
def pushForm (b : Builder) (tag : Tag) : Builder :=
  if b.hasOpen "template" then b.pushBlock tag
  else if b.form.isSome then b
  else
    let b := b.endParagraph
    { b.pushTag tag with form := some b.nodes.size }

/-- Opens an item of a list; an item before it that is open ends. -/
def pushItem (b : Builder) (tag : Tag) : Builder :=
  let b := b.forbidFrameset
  let items := if tag.name = "li" then ["li"] else ["dd", "dt"]
  let ends := fun i => (b.kind i).isSpecial && !b.isOne ["address", "div", "p"] i
  let b :=
    match b.stack.find? fun i => b.isOne items i || ends i with
    | some i =>
        if b.isOne items i then
          (b.closeOmissible (b.kind i).name).popThrough [(b.kind i).name]
        else b
    | none => b
  b.pushBlock tag

/-- Opens a button; one that is open ends. -/
def pushButton (b : Builder) (tag : Tag) : Builder :=
  let b := if b.hasInScope .ordinary ["button"] then b.close ["button"] else b
  (b.pushInline tag).forbidFrameset

/-- Opens an element that keeps its line together; one that is open ends. -/
def pushNobr (b : Builder) (tag : Tag) : Builder :=
  let b := b.reopen
  let b := if b.hasInScope .ordinary ["nobr"] then (b.endFormat "nobr").reopen else b
  b.pushFormat tag

/-- Opens a table. -/
def pushTable (b : Builder) (tag : Tag) : Builder :=
  let b := if b.legacy then b else b.endParagraph
  ((b.pushTag tag).forbidFrameset).enter .table

/-- Opens a list of choices. -/
def pushSelect (b : Builder) (tag : Tag) : Builder :=
  let inTable := [Mode.table, .caption, .rowGroup, .row, .cell].contains b.mode
  (b.pushInline tag).forbidFrameset.enter (if inTable then .selectInTable else .select)

/-- Opens a choice. -/
def pushOption (b : Builder) (tag : Tag) : Builder :=
  (if b.currentIsOne ["option"] then b.pop else b).pushInline tag

/-- Opens an annotation; annotations before it end. -/
def pushRuby (b : Builder) (tag : Tag) : Builder :=
  let except := if ["rp", "rt"].contains tag.name then "rtc" else ""
  (if b.hasInScope .ordinary ["ruby"] then b.closeOmissible except else b).pushTag tag

/-- Adds the element of a tag in another vocabulary, open unless the tag closes it. -/
def addForeign (b : Builder) (vocabulary : Vocabulary) (tag : Tag) : Builder :=
  if tag.closed then b.add ⟨vocabulary, tag.name⟩ tag.attributes
  else b.push ⟨vocabulary, tag.name⟩ tag.attributes

/-- Lets a set of frames take the place of the body, as long as nothing stands in it. -/
def replaceBody (b : Builder) (tag : Tag) : Builder :=
  match b.stack.reverse with
  | html :: body :: _ =>
      if b.framesetAllowed && b.isOne ["body"] body then
        (({ b.move body none with stack := [html] }).pushTag tag).enter .frameset
      else b
  | _ => b

/-- The body of which a second tag has been read. -/
def confirmBody (b : Builder) : Builder :=
  match b.stack.reverse with
  | _ :: body :: _ =>
      if b.isOne ["body"] body && !b.hasOpen "template" then b.forbidFrameset else b
  | _ => b

/-- A start tag in a body. -/
def readBodyStart (b : Builder) (tag : Tag) : Step :=
  let name := tag.name
  if name = "html" then b.done
  else if headParts.contains name then b.readHead (.start tag)
  else if name = "body" then b.confirmBody.done
  else if name = "frameset" then (b.replaceBody tag).done
  else if blocks.contains name then (b.pushBlock tag).done
  else if headings.contains name then (b.pushHeading tag).done
  else if ["pre", "listing"].contains name then
    { (b.pushBlock tag).forbidFrameset with skipsNewline := true }.done
  else if name = "form" then (b.pushForm tag).done
  else if ["li", "dd", "dt"].contains name then (b.pushItem tag).done
  else if name = "plaintext" then b.endParagraph.addText tag
  else if name = "button" then (b.pushButton tag).done
  else if name = "a" then (b.endAnchor.reopen.pushFormat tag).done
  else if name = "nobr" then (b.pushNobr tag).done
  else if formats.contains name then (b.reopen.pushFormat tag).done
  else if enclosures.contains name then (b.pushInline tag).markFormats.forbidFrameset.done
  else if name = "table" then (b.pushTable tag).done
  else if emptyInlines.contains name then (b.addInline tag).done
  else if emptyParts.contains name then (b.addTag tag).done
  else if name = "hr" then (b.endParagraph.addTag tag).forbidFrameset.done
  else if name = "image" then (b.addInline { tag with name := "img" }).done
  else if name = "textarea" || name = "iframe" then b.forbidFrameset.addText tag
  else if name = "xmp" then b.endParagraph.reopen.forbidFrameset.addText tag
  else if name = "noembed" then b.addText tag
  else if name = "select" then (b.pushSelect tag).done
  else if ["optgroup", "option"].contains name then (b.pushOption tag).done
  else if ["rb", "rtc", "rp", "rt"].contains name then (b.pushRuby tag).done
  else if name = "math" then (b.addForeign .math tag).done
  else if name = "svg" then (b.addForeign .svg tag).done
  else if misplaced.contains name then b.done
  else (b.pushInline tag).done

/-! ### End tags -/

/-- Closes a form. -/
def closeForm (b : Builder) : Builder :=
  if b.hasOpen "template" then
    if b.hasInScope .ordinary ["form"] then b.close ["form"] else b
  else
    match b.form with
    | none => b
    | some form =>
        let b := { b with form := none }
        if b.inScope .ordinary (· = form) then (b.closeOmissible "").unstack form else b

/-- Closes an item of a list. -/
def closeItem (b : Builder) (name : String) : Builder :=
  if b.hasInScope (if name = "li" then .list else .ordinary) [name] then
    (b.closeOmissible name).popThrough [name]
  else b

/-- An end tag in a body. -/
def readBodyClose (b : Builder) (name : String) : Step :=
  if name = "template" then b.readHead (.close name)
  else if name = "body" then
    (if b.hasInScope .ordinary ["body"] then b.enter .afterBody else b).done
  else if name = "html" then
    if b.hasInScope .ordinary ["body"] then b.again .afterBody else b.done
  else if closers.contains name then
    (if b.hasInScope .ordinary [name] then b.close [name] else b).done
  else if name = "form" then b.closeForm.done
  else if name = "p" then
    (if b.hasInScope .button ["p"] then b else b.pushName "p").closeParagraph.done
  else if ["li", "dd", "dt"].contains name then (b.closeItem name).done
  else if headings.contains name then
    (if b.hasInScope .ordinary headings then b.close headings else b).done
  else if formats.contains name then (b.endFormat name).done
  else if enclosures.contains name then
    (if b.hasInScope .ordinary [name] then (b.close [name]).clearFormats else b).done
  else if name = "br" then (b.addInline ⟨"br", [], false⟩).done
  else (b.closeNamed name).done

/-! ### The body -/

/-- The end of a text inside a template, which ends too. -/
def leaveOpenTemplate (b : Builder) : Step :=
  if b.hasOpen "template" then
    let b := (b.popThrough ["template"]).leaveTemplate
    b.again b.mode
  else b.done

/-- A token of a body. -/
def readBody (b : Builder) : Token → Step
  | .char c =>
      if c = '\x00' then b.done
      else (if isWhite c then b.reopen else b.reopen.forbidFrameset).done
  | .start tag => b.readBodyStart tag
  | .close name => b.readBodyClose name
  | .done => if b.templates.isEmpty then b.done else b.leaveOpenTemplate
  | _ => b.done

end Wayfarer.Html.Builder
