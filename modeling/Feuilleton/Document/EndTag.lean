import Feuilleton.Document.Adoption

/-!
# End tags

What an end tag does in each part of a page. Some only end the part; the tag is then read again in
the part around it.
-/

namespace Feuilleton.Document.Builder

/-- A new state, and whether the same tag is to be read again in it. -/
abbrev Reaction := Builder × Bool

def done (b : Builder) : Reaction := (b, false)

def again (b : Builder) : Reaction := (b, true)

/-! ## The beginning of a page -/

def openRoot (b : Builder) : Builder :=
  { b.insertImplied "html" with mode := .beforeHead }

def openHead (b : Builder) (tag : Tag) : Builder :=
  let b := b.insert tag
  { b with head := b.elements.head?, mode := .inHead }

def closeHead (b : Builder) : Builder :=
  { b.pop with mode := .afterHead }

def closeHeadNoscript (b : Builder) : Builder :=
  { b.pop with mode := .inHead }

def openBody (b : Builder) : Builder :=
  { b.insertImplied "body" with mode := .inBody, framesetOk := true }

def startsPage (name : String) : Bool :=
  ["head", "body", "html", "br"].contains name

/-! ## The body -/

def closeParagraph (b : Builder) : Builder :=
  (b.closeImplied (some "p")).popThrough ["p"]

/-- Closes a paragraph that is open. -/
def endParagraph (b : Builder) : Builder :=
  if b.inScope .button "p" then b.closeParagraph else b

def endForm (b : Builder) : Builder :=
  let open? := b.form.filter fun id => b.reaches .plain (· == id) b.elements
  let b := { b with form := none }
  match open? with
  | none => b
  | some id =>
      let b := b.closeImplied none
      { b with elements := b.elements.erase id }

def endHeading (b : Builder) : Builder :=
  let b := if b.anyInScope .plain headings then b.closeImplied none else b
  if b.anyInScope .plain headings then b.popThrough headings else b

/-- Closes an element and all in it, if it is open. -/
def endScoped (b : Builder) (scope : Scope) (name : String) (kept : Option String) : Builder :=
  if b.inScope scope name then (b.closeImplied kept).popThrough [name] else b

def endBlock (b : Builder) (name : String) : Builder :=
  let b := if name == "pre" then { b with dropNewline := false } else b
  b.endScoped .plain name none

def endObject (b : Builder) (name : String) : Builder :=
  let b := if b.inScope .plain name then b.closeImplied none else b
  if b.inScope .plain name then (b.popThrough [name]).unmark else b

def endInBody (b : Builder) (name : String) : Reaction :=
  if name == "body" then
    done (if b.inScope .plain "body" then { b with mode := .afterBody } else b)
  else if name == "html" then
    if b.inScope .plain "body" then again { b with mode := .afterBody } else done b
  else if blockEnds.contains name then done (b.endBlock name)
  else if name == "form" then done b.endForm
  else if name == "p" then
    done (if b.inScope .button "p" then b.closeParagraph else (b.insertImplied "p").closeParagraph)
  else if name == "li" then done (b.endScoped .list name (some name))
  else if name == "dd" || name == "dt" then done (b.endScoped .plain name (some name))
  else if headings.contains name then done b.endHeading
  else if name == "a" || name == "nobr" || formattingNames.contains name then
    done (b.closeFormatting name)
  else if ["applet", "marquee", "object"].contains name then done (b.endObject name)
  else if name == "br" then done (b.reconstruct.insertVoid { name })
  else done (b.closeOther name)

/-! ## Tables -/

/-- Reads a tag by the rules of the body and puts what it opens before the table. -/
def foster (b : Builder) (read : Builder → Reaction) : Builder :=
  { (read { b with fostering := true }).1 with fostering := false }

def endTable (b : Builder) : Builder :=
  if b.inScope .table "table" then ((b.closeImplied none).popThrough ["table"]).resetMode else b

def endInTable (b : Builder) (name : String) : Reaction :=
  if name == "table" then done b.endTable
  else if name == "body" || name == "html" || tableStarts.contains name then done b
  else done (b.foster (·.endInBody name))

def endCaption (b : Builder) : Builder :=
  if b.inScope .table "caption" then
    { ((b.closeImplied none).popThrough ["caption"]).unmark with mode := .inTable }
  else b

def endInCaption (b : Builder) (name : String) : Reaction :=
  if name == "caption" then done b.endCaption
  else if name == "table" then (b.endCaption, b.inScope .table "caption")
  else if name == "body" || name == "html" || tableStarts.contains name then done b
  else b.endInBody name

def endColumnGroup (b : Builder) : Builder :=
  if b.isAtRoot then b else { b.pop with mode := .inTable }

def endInColumnGroup (b : Builder) (name : String) : Reaction :=
  if name == "colgroup" then done b.endColumnGroup
  else if name == "col" then done b
  else (b.endColumnGroup, !b.isAtRoot)

def toRowGroup (b : Builder) : Builder :=
  b.popTo ("html" :: rowGroups)

def endRowGroup (b : Builder) (name : String) : Builder :=
  if b.inScope .table name then { b.toRowGroup.pop with mode := .inTable } else b

def endInTableBody (b : Builder) (name : String) : Reaction :=
  if rowGroups.contains name then done (b.endRowGroup name)
  else if name == "table" then
    if b.anyInScope .table rowGroups then
      let b := b.toRowGroup
      again (b.endRowGroup b.currentName)
    else done b
  else if ["body", "caption", "col", "colgroup", "html", "td", "th", "tr"].contains name then done b
  else b.endInTable name

def toRow (b : Builder) : Builder :=
  b.popTo ["tr", "html"]

def endRow (b : Builder) : Builder :=
  if b.inScope .table "tr" then { b.toRow.pop with mode := .inTableBody } else b

def endInRow (b : Builder) (name : String) : Reaction :=
  if name == "tr" then done b.endRow
  else if name == "table" then (b.endRow, b.inScope .table "tr")
  else if rowGroups.contains name then
    if b.inScope .table name then again b.endRow else done b
  else if ["body", "caption", "col", "colgroup", "html", "td", "th"].contains name then done b
  else b.endInTable name

def endCell (b : Builder) (name : String) : Builder :=
  if b.inScope .table name then
    { ((b.closeImplied (some name)).popThrough [name]).unmark with mode := .inRow }
  else b

def closeCell (b : Builder) : Builder :=
  if b.inScope .table "td" then b.endCell "td"
  else if b.inScope .table "th" then b.endCell "th"
  else b

def endInCell (b : Builder) (name : String) : Reaction :=
  if name == "td" || name == "th" then done (b.endCell name)
  else if ["body", "caption", "col", "colgroup", "html"].contains name then done b
  else if tableParts.contains name then
    if b.inScope .table name then again b.closeCell else done b
  else b.endInBody name

/-! ## Choices -/

def popNamed (b : Builder) (name : String) : Builder :=
  if b.currentName == name then b.pop else b

def endSelect (b : Builder) : Builder :=
  if b.inScope .select "select" then (b.popThrough ["select"]).resetMode else b

/-- An open choice also ends if the group around it does. -/
def endChoiceGroup (b : Builder) : Builder :=
  let inGroup := (b.elements[1]?.map b.nameOf) == some "optgroup"
  let b := if b.currentName == "option" && inGroup then b.pop else b
  b.popNamed "optgroup"

def endInSelect (b : Builder) (name : String) : Reaction :=
  match name with
  | "option" => done (b.popNamed "option")
  | "optgroup" => done b.endChoiceGroup
  | "select" => done b.endSelect
  | _ => done b

def tableInSelect : List String :=
  ["caption", "table", "tbody", "tfoot", "thead", "tr", "td", "th"]

def endInSelectInTable (b : Builder) (name : String) : Reaction :=
  if tableInSelect.contains name then
    if b.inScope .table name then again b.endSelect else done b
  else b.endInSelect name

/-! ## Frames -/

def endFrameset (b : Builder) : Builder :=
  if b.isAtRoot then b
  else
    let b := b.pop
    if b.currentName != "frameset" then { b with mode := .afterFrameset } else b

/-! ## Text in tables -/

/-- Blanks stay in the table, any other text goes before it. -/
def flushTableText (b : Builder) : Builder :=
  let content := b.tableText.reverse
  let b := { b with tableText := [], mode := b.resumeTable }
  if content.all Markup.isSpace then b.insertText content
  else
    let b := { b with fostering := true }.reconstruct.insertText content
    { b with fostering := false, framesetOk := false }

/-! ## Everywhere -/

def endTag (b : Builder) (name : String) : Reaction :=
  match b.mode with
  | .initial => again { b with mode := .beforeHtml, lenient := true }
  | .beforeHtml => if startsPage name then again b.openRoot else done b
  | .beforeHead => if startsPage name then again (b.openHead { name := "head" }) else done b
  | .inHead =>
      if name == "head" then done b.closeHead
      else if startsPage name then again b.closeHead
      else done b
  | .inHeadNoscript =>
      if name == "noscript" then done b.closeHeadNoscript
      else if name == "br" then again b.closeHeadNoscript
      else done b
  | .afterHead =>
      if ["body", "html", "br"].contains name then again b.openBody else done b
  | .inBody => b.endInBody name
  | .text => done { b.pop with mode := b.resume, content := .data }
  | .inTable => b.endInTable name
  | .inTableText => again b.flushTableText
  | .inCaption => b.endInCaption name
  | .inColumnGroup => b.endInColumnGroup name
  | .inTableBody => b.endInTableBody name
  | .inRow => b.endInRow name
  | .inCell => b.endInCell name
  | .inSelect => b.endInSelect name
  | .inSelectInTable => b.endInSelectInTable name
  | .afterBody =>
      if name == "html" then done { b with mode := .afterAfterBody }
      else again { b with mode := .inBody }
  | .inFrameset => if name == "frameset" then done b.endFrameset else done b
  | .afterFrameset =>
      if name == "html" then done { b with mode := .afterAfterFrameset } else done b
  | .afterAfterBody => again { b with mode := .inBody }
  | .afterAfterFrameset => done b

/-- Whether an end tag closes an element of a drawing or a formula, and which. -/
def foreignTarget (b : Builder) (name : String) : List NodeId → Option NodeId
  | [] => none
  | id :: rest =>
      let slot := b.slot id
      if slot.name.map Char.toLower == name then some id
      else match rest with
        | [] => none
        | next :: _ => if (b.slot next).space == .html then none else b.foreignTarget name rest

def endForeign (b : Builder) (name : String) : Reaction :=
  match b.foreignTarget name b.elements with
  | some id =>
      let b := if b.mode = .inTableText then b.flushTableText else b
      done { b with elements := (b.elements.dropWhile (· != id)).drop 1 }
  | none => b.endTag name

end Feuilleton.Document.Builder
