import Feuilleton.Document.EndTag

/-!
# Start tags in the body

Blocks end an open paragraph, formatting stays in force until its end tag, and some elements hold
text only. The rules of the body are also those of captions and cells.
-/

namespace Feuilleton.Document.Builder

/-! ## The frame of the page -/

/-- A second outermost tag only adds attributes. -/
def mergeRoot (b : Builder) (tag : Tag) : Builder :=
  b.addAttributes (b.elements.getLastD Arena.root) tag.attributes

/-- The body, if it is open. -/
def body? (b : Builder) : Option NodeId :=
  (b.elements.reverse[1]?).filter (b.nameOf · == "body")

def mergeBody (b : Builder) (tag : Tag) : Builder :=
  match b.body? with
  | some body => { b.addAttributes body tag.attributes with framesetOk := false }
  | none => b

/-- Frames take the place of a body that shows nothing yet. -/
def replaceBody (b : Builder) (tag : Tag) : Builder :=
  match b.body? with
  | some body =>
      if b.framesetOk then
        let b := { b with arena := b.arena.detach body }
        { (b.popTo ["html"]).insert tag with mode := .inFrameset }
      else b
  | none => b

/-- Elements of the head, which are also understood elsewhere. -/
def startHeadElement (b : Builder) (tag : Tag) : Builder :=
  match tag.name with
  | "title" => b.readText tag .references
  | "style" | "noframes" => b.readText tag .raw
  | "script" => b.readText tag .script
  | _ => b.insertVoid tag

/-! ## Blocks -/

def startBlock (b : Builder) (tag : Tag) : Builder :=
  b.endParagraph.insert tag

def startHeading (b : Builder) (tag : Tag) : Builder :=
  let b := b.endParagraph
  (if headings.contains b.currentName then b.pop else b).insert tag

def startPreformatted (b : Builder) (tag : Tag) : Builder :=
  { b.startBlock tag with framesetOk := false, dropNewline := true }

def startForm (b : Builder) (tag : Tag) : Builder :=
  if b.form.isSome then b
  else
    let b := b.startBlock tag
    { b with form := b.elements.head? }

def startRule (b : Builder) (tag : Tag) : Builder :=
  { b.endParagraph.insertVoid tag with framesetOk := false }

/-! ## Items of lists -/

def itemsEndedBy (name : String) : List String :=
  if name == "li" then ["li"] else ["dd", "dt"]

/-- The open item that ends where another one begins. -/
def openItem? (b : Builder) (names : List String) : Option String :=
  let stop := b.elements.find? fun id =>
    let slot := b.slot id
    names.contains slot.name ||
      (isSpecial slot && !(["address", "div", "p"].contains slot.name))
  (stop.map b.nameOf).filter names.contains

def startItem (b : Builder) (tag : Tag) : Builder :=
  let b := { b with framesetOk := false }
  let b := match b.openItem? (itemsEndedBy tag.name) with
    | some item => (b.endTag item).1
    | none => b
  let b := if b.inScope .button "p" then (b.endTag "p").1 else b
  b.insert tag

/-! ## Formatting and inline elements -/

def forget (b : Builder) (id : NodeId) : Builder :=
  { b with elements := b.elements.erase id, formatting := b.formatting.erase (some id) }

/-- Links do not contain links. -/
def startLink (b : Builder) (tag : Tag) : Builder :=
  let b := match b.formattingNamed? "a" with
    | some link => (b.closeFormatting "a").forget link
    | none => b
  b.reconstruct.insertFormatting tag

def startUnbroken (b : Builder) (tag : Tag) : Builder :=
  let b := b.reconstruct
  let b := if b.inScope .plain "nobr" then (b.closeFormatting "nobr").reconstruct else b
  b.insertFormatting tag

def startInline (b : Builder) (tag : Tag) : Builder :=
  b.reconstruct.insert tag

def startVoid (b : Builder) (tag : Tag) : Builder :=
  { b.reconstruct.insertVoid tag with framesetOk := false }

def startButton (b : Builder) (tag : Tag) : Reaction :=
  if b.inScope .plain "button" then again (b.endBlock "button")
  else done { b.startInline tag with framesetOk := false }

def startObject (b : Builder) (tag : Tag) : Builder :=
  { (b.startInline tag).mark with framesetOk := false }

/-- Annotations of characters end each other. -/
def startAnnotation (b : Builder) (tag : Tag) : Builder :=
  (if b.inScope .plain "ruby" then b.closeImplied none else b).insert tag

def startForeign (b : Builder) (space : Space) (tag : Tag) : Builder :=
  let b := b.reconstruct.insertNew tag.name space (space.attributes tag.attributes)
  if tag.selfClosing then b.pop else b

/-! ## Text elements -/

def startRaw (b : Builder) (tag : Tag) : Builder :=
  { b.readText tag .raw with framesetOk := false }

def startTextArea (b : Builder) (tag : Tag) : Builder :=
  { b.insert tag with
    content := .references
    contentElement := tag.name
    dropNewline := true
    framesetOk := false }

/-! ## Controls -/

def isHidden (tag : Tag) : Bool :=
  (tag.attributes.get? "type").any fun value => value.map Char.toLower == "hidden"

def startInput (b : Builder) (tag : Tag) : Builder :=
  let framesetOk := b.framesetOk && isHidden tag
  { b.startVoid tag with framesetOk }

def startTable (b : Builder) (tag : Tag) : Builder :=
  let b := if b.lenient then b else b.endParagraph
  { b.insert tag with framesetOk := false, mode := .inTable }

def tableModes : List Mode :=
  [.inTable, .inCaption, .inColumnGroup, .inTableBody, .inRow, .inCell]

def startSelect (b : Builder) (tag : Tag) : Builder :=
  let mode := if tableModes.contains b.mode then .inSelectInTable else .inSelect
  { b.startInline tag with framesetOk := false, mode }

def startChoice (b : Builder) (tag : Tag) : Builder :=
  (if b.currentName == "option" then (b.endTag "option").1 else b).startInline tag

/-- Text in the body. -/
def readBodyText (b : Builder) (content : List Char) : Builder :=
  if content = ['\x00'] then b
  else
    let framesetOk := b.framesetOk && content.all Markup.isSpace
    { b.reconstruct.insertText content with framesetOk }

def searchPrompt : String := "This is a searchable index. Enter search keywords: "

/-- An old tag that stands for a form with one field between two rules. -/
def startSearch (b : Builder) (tag : Tag) : Builder :=
  if b.form.isSome then b
  else
    let action := (tag.attributes.get? "action").map fun value => [("action", value)]
    let prompt := (tag.attributes.get? "prompt").getD searchPrompt
    let field := ((tag.attributes.erase "action").erase "prompt").insert "name" "isindex"
    let b := b.startForm { name := "form", attributes := OrderedMap.ofList (action.getD []) }
    let b := (b.startRule { name := "hr" }).startInline { name := "label" }
    let b := b.readBodyText prompt.toList
    let b := (b.startInput { name := "input", attributes := field }).closeOther "label"
    (b.startRule { name := "hr" }).endForm

/-! ## Everything in the body -/

def voidNames : List String := ["area", "br", "embed", "img", "keygen", "wbr"]

def misplacedNames : List String := "frame" :: "head" :: tableStarts

def startInline? (b : Builder) (tag : Tag) : Option Builder :=
  if formattingNames.contains tag.name then some (b.reconstruct.insertFormatting tag)
  else if voidNames.contains tag.name then some (b.startVoid tag)
  else
    match tag.name with
    | "a" => some (b.startLink tag)
    | "nobr" => some (b.startUnbroken tag)
    | "applet" | "marquee" | "object" => some (b.startObject tag)
    | "param" | "source" | "track" => some (b.insertVoid tag)
    | "image" => some (b.startVoid { tag with name := "img" })
    | "input" => some (b.startInput tag)
    | "textarea" => some (b.startTextArea tag)
    | "iframe" => some (b.startRaw tag)
    | "noembed" => some (b.readText tag .raw)
    | "select" => some (b.startSelect tag)
    | "option" | "optgroup" => some (b.startChoice tag)
    | "rp" | "rt" => some (b.startAnnotation tag)
    | "math" => some (b.startForeign .math tag)
    | "svg" => some (b.startForeign .svg tag)
    | _ => none

def startBlock? (b : Builder) (tag : Tag) : Option Builder :=
  if blockStarts.contains tag.name then some (b.startBlock tag)
  else if headings.contains tag.name then some (b.startHeading tag)
  else
    match tag.name with
    | "pre" | "listing" => some (b.startPreformatted tag)
    | "form" => some (b.startForm tag)
    | "li" | "dd" | "dt" => some (b.startItem tag)
    | "plaintext" => some { b.startBlock tag with content := .plain }
    | "xmp" => some (b.endParagraph.reconstruct.startRaw tag)
    | "table" => some (b.startTable tag)
    | "hr" => some (b.startRule tag)
    | "isindex" => some (b.startSearch tag)
    | _ => none

def startFrame? (b : Builder) (tag : Tag) : Option Builder :=
  if headNames.contains tag.name then some (b.startHeadElement tag)
  else if misplacedNames.contains tag.name then some b
  else
    match tag.name with
    | "html" => some (b.mergeRoot tag)
    | "body" => some (b.mergeBody tag)
    | "frameset" => some (b.replaceBody tag)
    | "noframes" => some (b.startHeadElement tag)
    | _ => none

def startInBody (b : Builder) (tag : Tag) : Reaction :=
  if tag.name == "button" then b.startButton tag
  else
    done ((((b.startFrame? tag).or (b.startBlock? tag)).or (b.startInline? tag)).getD
      (b.startInline tag))

end Feuilleton.Document.Builder
