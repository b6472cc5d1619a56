import Wayfarer.Html.Mode.Table

/-!
Lists of choices, templates, sets of frames, and what follows the body.

* `Html.Builder.readSelect`, `Html.Builder.readSelectInTable`: lists of choices;
* `Html.Builder.readTemplate`: templates;
* `Html.Builder.readAfterBody`, `Html.Builder.readAfterDocument`: what follows the body;
* `Html.Builder.readFrameset`, `Html.Builder.readAfterFrameset`,
  `Html.Builder.readAfterFramesetDocument`: sets of frames.
-/

namespace Wayfarer.Html.Builder

/-! ### Choices -/

/-- Closes the innermost open element if it has a name. -/
def popIf (b : Builder) (name : String) : Builder :=
  if b.currentIsOne [name] then b.pop else b

/-- Closes a list of choices. -/
def closeSelect (b : Builder) : Builder :=
  let b := b.popThrough ["select"]
  b.enter b.modeOfStack

/-- Closes a list of choices in front of what cannot stand in one. -/
def leaveSelect (b : Builder) : Step :=
  let b := b.closeSelect
  b.again b.mode

/-- Closes a group of choices, and a choice at its end. -/
def closeChoices (b : Builder) : Builder :=
  let endsGroup := b.currentIsOne ["option"] && b.stack[1]?.any (b.isOne ["optgroup"])
  (if endsGroup then b.pop else b).popIf "optgroup"

/-- A start tag in a list of choices. -/
def readSelectStart (b : Builder) (tag : Tag) : Step :=
  let name := tag.name
  if name = "option" then ((b.popIf "option").pushTag tag).done
  else if name = "optgroup" then (((b.popIf "option").popIf "optgroup").pushTag tag).done
  else if name = "hr" then (((b.popIf "option").popIf "optgroup").addTag tag).done
  else if name = "select" then
    (if b.hasInScope .select ["select"] then b.closeSelect else b).done
  else if ["input", "keygen", "textarea"].contains name then
    if b.hasInScope .select ["select"] then b.leaveSelect else b.done
  else if ["script", "template"].contains name then b.readHead (.start tag)
  else b.done

/-- A token in a list of choices. -/
def readSelect (b : Builder) : Token → Step
  | .start tag => b.readSelectStart tag
  | .close name =>
      if name = "optgroup" then b.closeChoices.done
      else if name = "option" then (b.popIf "option").done
      else if name = "select" then
        (if b.hasInScope .select ["select"] then b.closeSelect else b).done
      else if name = "template" then b.readHead (.close name)
      else b.done
  | .done => b.readBody .done
  | _ => b.done

/-- The parts of a table that end a list of choices in it. -/
def selectEnds : List String :=
  ["caption", "table", "tbody", "tfoot", "thead", "tr", "td", "th"]

/-- A token in a list of choices inside a table. -/
def readSelectInTable (b : Builder) (t : Token) : Step :=
  match t with
  | .start tag => if selectEnds.contains tag.name then b.leaveSelect else b.readSelect t
  | .close name =>
      if selectEnds.contains name then
        if b.hasInScope .table [name] then b.leaveSelect else b.done
      else b.readSelect t
  | _ => b.readSelect t

/-! ### Templates -/

/-- Reads a token again, the innermost template being of some mode. -/
def againInTemplate (b : Builder) (mode : Mode) : Step :=
  { b with templates := mode :: b.templates.drop 1 }.again mode

/-- A token in a template of which nothing but parts of a head has been read. -/
def readTemplate (b : Builder) (t : Token) : Step :=
  match t with
  | .char c => if c = '\x00' then b.done else b.readBody t
  | .start tag =>
      let name := tag.name
      if headParts.contains name then b.readHead t
      else if name = "col" then b.againInTemplate .columns
      else if tableParts.contains name then b.againInTemplate .table
      else if name = "tr" then b.againInTemplate .rowGroup
      else if cells.contains name then b.againInTemplate .row
      else b.againInTemplate .body
  | .close name => if name = "template" then b.readHead t else b.done
  | .done => b.leaveOpenTemplate
  | _ => b.done

/-! ### Behind the body -/

/-- A token behind the body. -/
def readAfterBody (b : Builder) (t : Token) : Step :=
  match t with
  | .char c => if isWhite c then b.readBody t else b.again .body
  | .start tag => if tag.name = "html" then b.done else b.again .body
  | .close name => if name = "html" then (b.enter .afterDocument).done else b.again .body
  | _ => b.done

/-- A token behind a document. -/
def readAfterDocument (b : Builder) (t : Token) : Step :=
  match t with
  | .char c => if isWhite c then b.readBody t else b.again .body
  | .start tag => if tag.name = "html" then b.done else b.again .body
  | .close _ => b.again .body
  | _ => b.done

/-! ### Frames -/

/-- A token in a set of frames. -/
def readFrameset (b : Builder) : Token → Step
  | .start tag =>
      if tag.name = "frameset" then (b.pushTag tag).done
      else if tag.name = "frame" then (b.addTag tag).done
      else if tag.name = "noframes" then b.readHead (.start tag)
      else b.done
  | .close name =>
      if name = "frameset" && 1 < b.stack.length then
        let b := b.pop
        (if b.currentIsOne ["frameset"] then b else b.enter .afterFrameset).done
      else b.done
  | _ => b.done

/-- A token behind a set of frames. -/
def readAfterFrameset (b : Builder) : Token → Step
  | .start tag => if tag.name = "noframes" then b.readHead (.start tag) else b.done
  | .close name => (if name = "html" then b.enter .afterFramesetDocument else b).done
  | _ => b.done

/-- A token behind a document of frames. -/
def readAfterFramesetDocument (b : Builder) (t : Token) : Step :=
  match t with
  | .char c => if isWhite c then b.readBody t else b.done
  | .start tag => if tag.name = "noframes" then b.readHead (.start tag) else b.done
  | _ => b.done

end Wayfarer.Html.Builder
