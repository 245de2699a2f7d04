import Feuilleton.Document.BodyStart

/-!
# Start tags

What a start tag does in each part of a page. As with end tags, some only begin or end a part and
are then read again.
-/

namespace Feuilleton.Document.Builder

/-! ## The beginning of a page -/

def startBeforeHead (b : Builder) (tag : Tag) : Reaction :=
  match tag.name with
  | "html" => done (b.mergeRoot tag)
  | "head" => done (b.openHead tag)
  | _ => again (b.openHead { name := "head" })

def startInHead (b : Builder) (tag : Tag) : Reaction :=
  if headNames.contains tag.name || tag.name == "noframes" then done (b.startHeadElement tag)
  else
    match tag.name with
    | "html" => done (b.mergeRoot tag)
    | "noscript" => done { b.insert tag with mode := .inHeadNoscript }
    | "head" => done b
    | _ => again b.closeHead

def noscriptNames : List String :=
  ["basefont", "bgsound", "link", "meta", "noframes", "style"]

def startInHeadNoscript (b : Builder) (tag : Tag) : Reaction :=
  if noscriptNames.contains tag.name then done (b.startHeadElement tag)
  else
    match tag.name with
    | "html" => done (b.mergeRoot tag)
    | "head" | "noscript" => done b
    | _ => again b.closeHeadNoscript

/-- Puts an element into the head after its end. -/
def startLateInHead (b : Builder) (tag : Tag) : Builder :=
  match b.head with
  | some head =>
      let b := (b.push head).startHeadElement tag
      { b with elements := b.elements.erase head }
  | none => b

def lateNames : List String :=
  ["base", "basefont", "bgsound", "link", "meta", "noframes", "script", "style", "title"]

def startAfterHead (b : Builder) (tag : Tag) : Reaction :=
  if lateNames.contains tag.name then done (b.startLateInHead tag)
  else
    match tag.name with
    | "html" => done (b.mergeRoot tag)
    | "body" => done { b.insert tag with mode := .inBody, framesetOk := false }
    | "frameset" => done { b.insert tag with mode := .inFrameset }
    | "head" => done b
    | _ => again b.openBody

/-! ## Tables -/

def toTable (b : Builder) : Builder :=
  b.popTo ["table", "html"]

def startPart (b : Builder) (tag : Tag) (mode : Mode) : Builder :=
  { b.toTable.insert tag with mode }

def startRow (b : Builder) (tag : Tag) : Builder :=
  { b.toRowGroup.insert tag with mode := .inRow }

def startCell (b : Builder) (tag : Tag) : Builder :=
  { (b.toRow.insert tag).mark with mode := .inCell }

/-- A form in a table is closed at once. -/
def startTableForm (b : Builder) (tag : Tag) : Builder :=
  if b.form.isSome then b
  else
    let b := b.insert tag
    { b.pop with form := b.elements.head? }

def startInTable (b : Builder) (tag : Tag) : Reaction :=
  if rowGroups.contains tag.name then done (b.startPart tag .inTableBody)
  else if tag.name == "input" && isHidden tag then done (b.insertVoid tag)
  else
    match tag.name with
    | "html" => done (b.mergeRoot tag)
    | "caption" => done (b.toTable.mark.startPart tag .inCaption)
    | "colgroup" => done (b.startPart tag .inColumnGroup)
    | "col" => again (b.startPart { name := "colgroup" } .inColumnGroup)
    | "td" | "th" | "tr" => again (b.startPart { name := "tbody" } .inTableBody)
    | "table" => again (b.endTag "table").1
    | "style" | "script" => done (b.startHeadElement tag)
    | "form" => done (b.startTableForm tag)
    | _ => done (b.foster (·.startInBody tag))

def startInCaption (b : Builder) (tag : Tag) : Reaction :=
  if tableStarts.contains tag.name then (b.endCaption, b.inScope .table "caption")
  else b.startInBody tag

def startInColumnGroup (b : Builder) (tag : Tag) : Reaction :=
  match tag.name with
  | "html" => done (b.mergeRoot tag)
  | "col" => done (b.insertVoid tag)
  | _ => (b.endColumnGroup, !b.isAtRoot)

def startInTableBody (b : Builder) (tag : Tag) : Reaction :=
  if tag.name == "tr" then done (b.startRow tag)
  else if tag.name == "td" || tag.name == "th" then again (b.startRow { name := "tr" })
  else if tableStarts.contains tag.name then
    if b.anyInScope .table rowGroups then
      let b := b.toRowGroup
      again (b.endRowGroup b.currentName)
    else done b
  else b.startInTable tag

def startInRow (b : Builder) (tag : Tag) : Reaction :=
  if tag.name == "td" || tag.name == "th" then done (b.startCell tag)
  else if tableStarts.contains tag.name then (b.endRow, b.inScope .table "tr")
  else b.startInTable tag

def startInCell (b : Builder) (tag : Tag) : Reaction :=
  if tableStarts.contains tag.name then
    if b.anyInScope .table ["td", "th"] then again b.closeCell else done b
  else b.startInBody tag

/-! ## Choices -/

def startInSelect (b : Builder) (tag : Tag) : Reaction :=
  match tag.name with
  | "html" => done (b.mergeRoot tag)
  | "option" => done ((b.popNamed "option").insert tag)
  | "optgroup" => done (((b.popNamed "option").popNamed "optgroup").insert tag)
  | "select" => done b.endSelect
  | "input" | "keygen" | "textarea" =>
      if b.inScope .select "select" then again b.endSelect else done b
  | "script" => done (b.startHeadElement tag)
  | _ => done b

def startInSelectInTable (b : Builder) (tag : Tag) : Reaction :=
  if tableInSelect.contains tag.name then again b.endSelect else b.startInSelect tag

/-! ## Frames -/

def startInFrameset (b : Builder) (tag : Tag) : Reaction :=
  match tag.name with
  | "html" => done (b.mergeRoot tag)
  | "frameset" => done (b.insert tag)
  | "frame" => done (b.insertVoid tag)
  | "noframes" => done (b.startHeadElement tag)
  | _ => done b

def startAfterFrameset (b : Builder) (tag : Tag) : Reaction :=
  match tag.name with
  | "html" => done (b.mergeRoot tag)
  | "noframes" => done (b.startHeadElement tag)
  | _ => done b

/-! ## Everywhere -/

def startAfterBody (b : Builder) (tag : Tag) : Reaction :=
  if tag.name == "html" then done (b.mergeRoot tag) else again { b with mode := .inBody }

def startTag (b : Builder) (tag : Tag) : Reaction :=
  match b.mode with
  | .initial => again { b with mode := .beforeHtml, lenient := true }
  | .beforeHtml => again b.openRoot
  | .beforeHead => b.startBeforeHead tag
  | .inHead => b.startInHead tag
  | .inHeadNoscript => b.startInHeadNoscript tag
  | .afterHead => b.startAfterHead tag
  | .inBody => b.startInBody tag
  | .text => done b
  | .inTable => b.startInTable tag
  | .inTableText => again b.flushTableText
  | .inCaption => b.startInCaption tag
  | .inColumnGroup => b.startInColumnGroup tag
  | .inTableBody => b.startInTableBody tag
  | .inRow => b.startInRow tag
  | .inCell => b.startInCell tag
  | .inSelect => b.startInSelect tag
  | .inSelectInTable => b.startInSelectInTable tag
  | .afterBody | .afterAfterBody => b.startAfterBody tag
  | .inFrameset => b.startInFrameset tag
  | .afterFrameset | .afterAfterFrameset => b.startAfterFrameset tag

/-! ## Drawings and formulas -/

/-- Elements of drawings and formulas that hold parts of the page again. -/
def holdsPage (slot : Slot) : Bool :=
  match slot.space with
  | .html => false
  | .svg => drawingTexts.contains slot.name
  | .math =>
      slot.name == "annotation-xml" && (slot.attributes.get? "encoding").any fun value =>
        ["text/html", "application/xhtml+xml"].contains (value.map Char.toLower)

def holdsText (slot : Slot) : Bool :=
  slot.space == .math && formulaTexts.contains slot.name

/-- A start tag that belongs to the page and ends a drawing or a formula. -/
def breaksOut (tag : Tag) : Bool :=
  breakoutNames.contains tag.name ||
    (tag.name == "font" && ["color", "face", "size"].any tag.attributes.contains)

def toPage (b : Builder) : Builder :=
  { b with
    elements := b.elements.dropWhile fun id =>
      let slot := b.slot id
      slot.space != .html && !holdsPage slot && !holdsText slot }

def startInForeign (b : Builder) (space : Space) (tag : Tag) : Reaction :=
  if breaksOut tag then again b.toPage
  else
    let name := if space = .svg then spelled drawingNames tag.name else tag.name
    let b := b.insertNew name space (space.attributes tag.attributes)
    done (if tag.selfClosing then b.pop else b)

end Feuilleton.Document.Builder
