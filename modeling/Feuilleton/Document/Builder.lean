import Feuilleton.Document.Names
import Feuilleton.Markup.Token

/-!
# The state of construction

What is open, which formatting is in force, and in which part of the page the reader stands. Text
and elements that have no place in a table are put before it.
-/

namespace Feuilleton.Document

inductive Mode
  | initial
  | beforeHtml
  | beforeHead
  | inHead
  | inHeadNoscript
  | afterHead
  | inBody
  | text
  | inTable
  | inTableText
  | inCaption
  | inColumnGroup
  | inTableBody
  | inRow
  | inCell
  | inSelect
  | inSelectInTable
  | afterBody
  | inFrameset
  | afterFrameset
  | afterAfterBody
  | afterAfterFrameset
  deriving DecidableEq, Repr

structure Tag where
  name : String
  attributes : Attributes := ∅
  selfClosing : Bool := false
  deriving DecidableEq, Repr

/-- Open elements and formatting are kept innermost or latest first; a formatting entry without an
element is a marker. `resume` is the mode after text, `resumeTable` the one after text in a
table. -/
structure Builder where
  arena : Arena := Arena.empty
  elements : List NodeId := []
  formatting : List (Option NodeId) := []
  head : Option NodeId := none
  form : Option NodeId := none
  mode : Mode := .initial
  resume : Mode := .inBody
  resumeTable : Mode := .inTable
  tableText : List Char := []
  content : Markup.ContentMode := .data
  contentElement : String := ""
  framesetOk : Bool := true
  lenient : Bool := false
  fostering : Bool := false
  dropNewline : Bool := false

namespace Builder

/-! ## Open elements -/

def slot (b : Builder) (id : NodeId) : Slot := b.arena.slot id

def nameOf (b : Builder) (id : NodeId) : String := (b.slot id).name

def current? (b : Builder) : Option Slot := b.elements.head?.map b.slot

def currentName (b : Builder) : String := (b.current?.map (·.name)).getD ""

/-- Only the outermost element is open, or none. -/
def isAtRoot (b : Builder) : Bool := b.currentName == "html"

def push (b : Builder) (id : NodeId) : Builder := { b with elements := id :: b.elements }

def pop (b : Builder) : Builder := { b with elements := b.elements.drop 1 }

def popWhile (b : Builder) (p : String → Bool) : Builder :=
  { b with elements := b.elements.dropWhile fun id => p (b.nameOf id) }

/-- Closes everything up to the innermost element with one of the names, and that too. -/
def popThrough (b : Builder) (names : List String) : Builder :=
  (b.popWhile (!names.contains ·)).pop

/-- Closes everything up to one of the elements, which stay open. -/
def popTo (b : Builder) (names : List String) : Builder :=
  b.popWhile (!names.contains ·)

def reaches (b : Builder) (scope : Scope) (isTarget : NodeId → Bool) : List NodeId → Bool
  | [] => false
  | id :: rest =>
      if isTarget id then true
      else if scope.bounds (b.slot id) then false
      else b.reaches scope isTarget rest

def inScope (b : Builder) (scope : Scope) (name : String) : Bool :=
  b.reaches scope (fun id => isHtml (b.slot id) [name]) b.elements

def anyInScope (b : Builder) (scope : Scope) (names : List String) : Bool :=
  names.any (b.inScope scope)

/-- Closes elements whose end is understood, except one of the given name. -/
def closeImplied (b : Builder) (kept : Option String) : Builder :=
  b.popWhile fun name => impliedEnds.contains name && kept != some name

/-! ## Insertion -/

/-- Where to put what has no place in the table: before it, or at the end of an element. -/
def fosterPlace (b : Builder) : NodeId × Option NodeId :=
  match b.elements.dropWhile (fun id => b.nameOf id != "table") with
  | table :: outer =>
      match (b.slot table).parent with
      | some parent => (parent, some table)
      | none => (outer.headD Arena.root, none)
  | [] => (b.elements.getLastD Arena.root, none)

def isMisplaced (b : Builder) : Bool :=
  b.fostering && tableParts.contains b.currentName

def insertionPlace (b : Builder) : NodeId × Option NodeId :=
  if b.isMisplaced then b.fosterPlace else (b.elements.headD Arena.root, none)

def insertNew (b : Builder) (name : String) (space : Space) (attributes : Attributes) : Builder :=
  let (arena, id) := b.arena.create name space attributes
  let (parent, before) := b.insertionPlace
  { b with arena := arena.move id parent before, elements := id :: b.elements }

def insert (b : Builder) (tag : Tag) : Builder :=
  b.insertNew tag.name .html tag.attributes

def insertImplied (b : Builder) (name : String) : Builder :=
  b.insert { name }

/-- Inserts an element that is closed at once. -/
def insertVoid (b : Builder) (tag : Tag) : Builder :=
  (b.insert tag).pop

def insertText (b : Builder) (content : List Char) : Builder :=
  if content.isEmpty then b
  else
    let (parent, before) := b.insertionPlace
    { b with arena := b.arena.place parent before (.text (String.ofList content)) }

def insertComment (b : Builder) (parent : NodeId) (content : List Char) : Builder :=
  { b with arena := b.arena.place parent none (.comment (String.ofList content)) }

/-- Adds attributes that an element does not have yet. -/
def addAttributes (b : Builder) (id : NodeId) (attributes : Attributes) : Builder :=
  { b with
    arena := b.arena.update id fun slot =>
      { slot with
        attributes := attributes.entries.foldl
          (fun known (key, value) => if known.contains key then known else known.insert key value)
          slot.attributes } }

/-! ## Text elements -/

/-- Inserts an element and reads its content as text. -/
def readText (b : Builder) (tag : Tag) (content : Markup.ContentMode) : Builder :=
  { b.insert tag with content, contentElement := tag.name, mode := .text, resume := b.mode }

/-- The mode that fits the open elements. -/
def modeFor : String → Option Mode
  | "select" => some .inSelect
  | "td" | "th" => some .inCell
  | "tr" => some .inRow
  | "tbody" | "thead" | "tfoot" => some .inTableBody
  | "caption" => some .inCaption
  | "colgroup" => some .inColumnGroup
  | "table" => some .inTable
  | "head" | "body" => some .inBody
  | "frameset" => some .inFrameset
  | "html" => some .beforeHead
  | _ => none

def resetMode (b : Builder) : Builder :=
  let found := b.elements.findSome? fun id =>
    let slot := b.slot id
    if slot.space == .html then modeFor slot.name else none
  { b with mode := found.getD .inBody }

/-! ## Formatting -/

def mark (b : Builder) : Builder := { b with formatting := none :: b.formatting }

/-- Forgets the formatting since the last marker. -/
def unmark (b : Builder) : Builder :=
  { b with formatting := (b.formatting.dropWhile Option.isSome).drop 1 }

/-- The latest formatting of a name since the last marker. -/
def formattingNamed? (b : Builder) (name : String) : Option NodeId :=
  (b.formatting.takeWhile Option.isSome).findSome? fun entry =>
    entry.filter fun id => b.nameOf id == name

/-- Opens an element again that was closed while its formatting was in force. -/
def reopen (b : Builder) (id : NodeId) : Builder :=
  let slot := b.slot id
  b.insertNew slot.name slot.space slot.attributes

def isClosedEntry (b : Builder) (entry : Option NodeId) : Bool :=
  entry.any fun id => !b.elements.contains id

/-- Opens all closed formatting again, the oldest first. -/
def reconstruct (b : Builder) : Builder :=
  let closed := b.formatting.takeWhile b.isClosedEntry
  let older := b.formatting.drop closed.length
  let b := { b with formatting := older }
  closed.reverse.foldl
    (fun b entry =>
      match entry with
      | some id =>
          let b := b.reopen id
          { b with formatting := b.elements.head? :: b.formatting }
      | none => b)
    b

def insertFormatting (b : Builder) (tag : Tag) : Builder :=
  let b := b.insert tag
  { b with formatting := b.elements.head? :: b.formatting }

end Builder

end Feuilleton.Document
