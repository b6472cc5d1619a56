import Wayfarer.Html.Mode.Body

/-!
Tables.

* `Html.Builder.readTable`: a token of a table outside its parts; what does not belong there is
  fostered by what is around the table;
* `Html.Builder.readTableText`: text of a table;
* `Html.Builder.readCaption`, `Html.Builder.readColumns`, `Html.Builder.readRowGroup`,
  `Html.Builder.readRow`, `Html.Builder.readCell`: the parts of a table.
-/

namespace Wayfarer.Html.Builder

/-! ### Groups of names -/

/-- The elements down to which a table without its parts is open. -/
def tableRoots : List String :=
  ["html", "table", "template"]

/-- The elements down to which a group of rows without its rows is open. -/
def groupRoots : List String :=
  ["html", "tbody", "template", "tfoot", "thead"]

/-- The elements down to which a row without its cells is open. -/
def rowRoots : List String :=
  ["html", "template", "tr"]

/-- The parts of a table that begin in the table itself. -/
def tableParts : List String :=
  ["caption", "col", "colgroup", "tbody", "tfoot", "thead"]

/-! ### The table -/

/-- Reads a token as part of the body; what it adds to a table goes around the table. -/
def fosterBody (b : Builder) (t : Token) : Step :=
  let (b, next) := { b with fostering := true }.readBody t
  ({ b with fostering := false }, next)

/-- A character of a table. -/
def readTableChar (b : Builder) (c : Char) : Step :=
  if b.currentIsOne tableFrames then
    { b with modeAfterText := b.mode, tableText := [] }.again .tableText
  else b.fosterBody (.char c)

/-- A start tag in a table. -/
def readTableStart (b : Builder) (tag : Tag) : Step :=
  let name := tag.name
  let inner := b.popTo tableRoots
  if name = "caption" then ((inner.markFormats.pushTag tag).enter .caption).done
  else if name = "colgroup" then ((inner.pushTag tag).enter .columns).done
  else if name = "col" then (inner.pushName "colgroup").again .columns
  else if rowGroups.contains name then ((inner.pushTag tag).enter .rowGroup).done
  else if name = "tr" || cells.contains name then (inner.pushName "tbody").again .rowGroup
  else if name = "table" then
    if b.hasInScope .table ["table"] then
      let b := b.popThrough ["table"]
      b.again b.modeOfStack
    else b.done
  else if ["script", "style", "template"].contains name then b.readHead (.start tag)
  else if name = "input" && isHidden tag then (b.addTag tag).done
  else if name = "form" then
    if b.hasOpen "template" || b.form.isSome then b.done
    else { b.addTag tag with form := some b.nodes.size }.done
  else b.fosterBody (.start tag)

/-- An end tag in a table. -/
def readTableClose (b : Builder) (name : String) : Step :=
  if name = "table" then
    if b.hasInScope .table ["table"] then
      let b := b.popThrough ["table"]
      (b.enter b.modeOfStack).done
    else b.done
  else if name = "body" || name = "html" || name = "tr" || tableParts.contains name ||
      cells.contains name then b.done
  else if name = "template" then b.readHead (.close name)
  else b.fosterBody (.close name)

/-- A token of a table outside its parts. -/
def readTable (b : Builder) : Token → Step
  | .char c => b.readTableChar c
  | .start tag => b.readTableStart tag
  | .close name => b.readTableClose name
  | .done => b.readBody .done
  | _ => b.done

/-- The text of a table. White space stays where it is; any other text is fostered. -/
def flushTableText (b : Builder) : Builder :=
  let text := b.tableText.reverse
  let b := { b with tableText := [] }
  if text.all isWhite then b
  else text.foldl (fun b c => (b.fosterBody (.char c)).1) b

/-- A token in or behind the text of a table. -/
def readTableText (b : Builder) : Token → Step
  | .char c => (if c = '\x00' then b else { b with tableText := c :: b.tableText }).done
  | _ => b.flushTableText.again b.modeAfterText

/-! ### Captions and columns -/

/-- Closes a caption, if one is open. -/
def closeCaption? (b : Builder) : Option Builder :=
  if b.hasInScope .table ["caption"] then some ((b.close ["caption"]).clearFormats) else none

/-- A token in a caption. -/
def readCaption (b : Builder) (t : Token) : Step :=
  match t with
  | .start tag =>
      if tableParts.contains tag.name || tag.name = "tr" || cells.contains tag.name then
        match b.closeCaption? with
        | some b => b.again .table
        | none => b.done
      else b.readBody t
  | .close name =>
      if name = "caption" then ((b.closeCaption?.map (·.enter .table)).getD b).done
      else if name = "table" then
        match b.closeCaption? with
        | some b => b.again .table
        | none => b.done
      else if name = "body" || name = "html" || name = "tr" || tableParts.contains name ||
          cells.contains name then b.done
      else b.readBody t
  | _ => b.readBody t

/-- The end of a group of columns. -/
def leaveColumns (b : Builder) : Step :=
  if b.currentIsOne ["colgroup"] then b.pop.again .table else b.done

/-- A token in a group of columns. -/
def readColumns (b : Builder) : Token → Step
  | .char c => if isWhite c then b.done else b.leaveColumns
  | .start tag =>
      if tag.name = "html" then b.done
      else if tag.name = "col" then (b.addTag tag).done
      else if tag.name = "template" then b.readHead (.start tag)
      else b.leaveColumns
  | .close name =>
      if name = "colgroup" then
        (if b.currentIsOne ["colgroup"] then b.pop.enter .table else b).done
      else if name = "col" then b.done
      else if name = "template" then b.readHead (.close name)
      else b.leaveColumns
  | .done => b.readBody .done
  | _ => b.done

/-! ### Rows and cells -/

/-- The end of a group of rows in front of a part of the table. -/
def leaveRowGroup (b : Builder) : Step :=
  if b.hasInScope .table ["table", "tbody", "tfoot"] then (b.popTo groupRoots).pop.again .table
  else b.done

/-- A token in a group of rows. -/
def readRowGroup (b : Builder) (t : Token) : Step :=
  match t with
  | .start tag =>
      if tag.name = "tr" then (((b.popTo groupRoots).pushTag tag).enter .row).done
      else if cells.contains tag.name then ((b.popTo groupRoots).pushName "tr").again .row
      else if tableParts.contains tag.name then b.leaveRowGroup
      else b.readTable t
  | .close name =>
      if rowGroups.contains name then
        (if b.hasInScope .table [name] then (b.popTo groupRoots).pop.enter .table else b).done
      else if name = "table" then b.leaveRowGroup
      else if ["body", "caption", "col", "colgroup", "html", "td", "th", "tr"].contains name then
        b.done
      else b.readTable t
  | _ => b.readTable t

/-- Closes a row. -/
def closeRow (b : Builder) : Builder :=
  (b.popTo rowRoots).pop

/-- The end of a row in front of a part of the table. -/
def leaveRow (b : Builder) : Step :=
  if b.hasInScope .table ["tr"] then b.closeRow.again .rowGroup else b.done

/-- A token in a row. -/
def readRow (b : Builder) (t : Token) : Step :=
  match t with
  | .start tag =>
      if cells.contains tag.name then
        (((b.popTo rowRoots).pushTag tag).markFormats.enter .cell).done
      else if tag.name = "tr" || tableParts.contains tag.name then b.leaveRow
      else b.readTable t
  | .close name =>
      if name = "tr" then
        (if b.hasInScope .table ["tr"] then b.closeRow.enter .rowGroup else b).done
      else if name = "table" then b.leaveRow
      else if rowGroups.contains name then
        if b.hasInScope .table [name] then b.leaveRow else b.done
      else if ["body", "caption", "col", "colgroup", "html", "td", "th"].contains name then b.done
      else b.readTable t
  | _ => b.readTable t

/-- Closes cells of some names. -/
def closeCell (b : Builder) (names : List String) : Builder :=
  (b.close names).clearFormats

/-- A token in a cell. -/
def readCell (b : Builder) (t : Token) : Step :=
  match t with
  | .start tag =>
      if tag.name = "tr" || tableParts.contains tag.name || cells.contains tag.name then
        if b.hasInScope .table cells then (b.closeCell cells).again .row else b.done
      else b.readBody t
  | .close name =>
      if cells.contains name then
        (if b.hasInScope .table [name] then (b.closeCell [name]).enter .row else b).done
      else if ["body", "caption", "col", "colgroup", "html"].contains name then b.done
      else if name = "table" || name = "tr" || rowGroups.contains name then
        if b.hasInScope .table [name] then (b.closeCell cells).again .row else b.done
      else b.readBody t
  | _ => b.readBody t

end Wayfarer.Html.Builder
