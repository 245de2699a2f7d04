import Feuilleton.Document.StartTag
import Feuilleton.Markup.Nesting

/-!
# Reading documents

Every page has a document: the tokens of the page build a tree, one after the other, and at the
end of the page the parts that are missing are put in.
-/

namespace Feuilleton.Document

/-! ## Document types -/

/-- Old document types, with which tables do not end paragraphs. -/
def lenientIds : List String := [
  "-//ietf//dtd html",
  "-//w3c//dtd html 3 ",
  "-//w3c//dtd html 3.2",
  "-//w3c//dtd html 4.0 frameset//",
  "-//w3c//dtd html 4.0 transitional//",
  "-//w3c//dtd html experimental",
  "-//w3c//dtd w3 html//",
  "-//w3o//dtd w3 html"]

/-- Document types that are old if they do not say where they are defined. -/
def undefinedIds : List String :=
  ["-//w3c//dtd html 4.01 frameset//", "-//w3c//dtd html 4.01 transitional//"]

def isLenient (doctype : Markup.Doctype) : Bool :=
  let id := (doctype.publicId.getD "").map Char.toLower
  let starts (ids : List String) := ids.any fun start => start.toList.isPrefixOf id.toList
  !doctype.correct || doctype.name != "html" || starts lenientIds || id == "html" ||
    (starts undefinedIds && doctype.systemId.isNone)

namespace Builder

/-! ## Text -/

/-- Blanks in the body; the first line feed of some elements is left out. -/
def readBodyBlanks (b : Builder) (content : List Char) : Builder :=
  let isFirst := b.dropNewline && ["pre", "listing", "textarea"].contains b.currentName &&
    b.current?.any (·.children.isEmpty)
  let content := if isFirst && content.head? == some '\n' then content.drop 1 else content
  let b := { b with dropNewline := false }
  if content.isEmpty then b else b.reconstruct.insertText content

/-- Text in a table waits until all of it is known. -/
def collectTableText (b : Builder) (content : List Char) : Builder :=
  if content = ['\x00'] then b else { b with tableText := content.reverse ++ b.tableText }

def enterTableText (b : Builder) (content : List Char) : Builder :=
  { b with resumeTable := b.mode, mode := .inTableText }.collectTableText content

def readBlanks (b : Builder) (content : List Char) : Builder :=
  match b.mode with
  | .initial | .beforeHtml | .beforeHead => b
  | .inBody | .afterAfterBody | .afterAfterFrameset => b.readBodyBlanks content
  | .inTable | .inTableBody | .inRow => b.enterTableText content
  | .inTableText => b.collectTableText content
  | _ => b.insertText content

def readOther (b : Builder) (content : List Char) : Reaction :=
  match b.mode with
  | .initial => again { b with mode := .beforeHtml, lenient := true }
  | .beforeHtml => again b.openRoot
  | .beforeHead => again (b.openHead { name := "head" })
  | .inHead => again b.closeHead
  | .inHeadNoscript => again b.closeHeadNoscript
  | .afterHead => again b.openBody
  | .inBody | .inCaption | .inCell => done (b.readBodyText content)
  | .text => done (b.insertText content)
  | .inTable | .inTableBody | .inRow => done (b.enterTableText content)
  | .inTableText => done (b.collectTableText content)
  | .inColumnGroup => (b.endColumnGroup, !b.isAtRoot)
  | .inSelect | .inSelectInTable => done (if content = ['\x00'] then b else b.insertText content)
  | .afterBody | .afterAfterBody => again { b with mode := .inBody }
  | .inFrameset | .afterFrameset | .afterAfterFrameset => done b

def readContent (b : Builder) (content : List Char) : Reaction :=
  if content.all Markup.isSpace then done (b.readBlanks content) else b.readOther content

def readInForeign (b : Builder) (content : List Char) : Builder :=
  let framesetOk := b.framesetOk && content.all fun c => c = '\x00' || Markup.isSpace c
  { b.insertText (content.map Markup.shown) with framesetOk }

/-! ## Comments and document types -/

def readComment (b : Builder) (content : List Char) : Reaction :=
  match b.mode with
  | .initial | .beforeHtml | .afterAfterBody | .afterAfterFrameset =>
      done (b.insertComment Arena.root content)
  | .afterBody => done (b.insertComment (b.elements.getLastD Arena.root) content)
  | .inTableText => again b.flushTableText
  | _ => done (b.insertComment (b.elements.headD Arena.root) content)

def readDoctype (b : Builder) (doctype : Markup.Doctype) : Builder :=
  if b.mode = .initial then { b with mode := .beforeHtml, lenient := isLenient doctype } else b

/-! ## Tokens -/

/-- Where the token is not read by the rules of the page, and by which instead. -/
def foreign? (b : Builder) (token : Markup.Token) : Option Slot :=
  b.current?.filter fun slot =>
    match token with
    | .opening name _ _ =>
        slot.space != .html && !holdsPage slot &&
          !(holdsText slot && name != "mglyph" && name != "malignmark") &&
          !(slot.space == .math && slot.name == "annotation-xml" && name == "svg")
    | .text _ => slot.space != .html && !holdsPage slot && !holdsText slot
    | _ => slot.space != .html

def tagOf (name : String) (attributes : List (String × String)) (selfClosing : Bool) : Tag where
  name := name
  attributes := OrderedMap.ofList (Markup.Nesting.firstOfEach attributes)
  selfClosing := selfClosing

def react (b : Builder) (token : Markup.Token) : Reaction :=
  match token, b.foreign? token with
  | .opening name attributes selfClosing, none =>
      b.startTag (tagOf name attributes selfClosing)
  | .opening name attributes selfClosing, some slot =>
      b.startInForeign slot.space (tagOf name attributes selfClosing)
  | .closing name, none => b.endTag name
  | .closing name, some _ => b.endForeign name
  | .text content, none => b.readContent content
  | .text content, some _ => done (b.readInForeign content)
  | .comment content, none => b.readComment content
  | .comment content, some _ => done (b.insertComment (b.elements.headD Arena.root) content)
  | .doctype doctype, none => done (b.readDoctype doctype)
  | .doctype _, some _ => done b
  | .cut _, _ => done b

/-- Reads a token until it is done, at most `fuel` times. -/
def take : Nat → Builder → Markup.Token → Builder
  | 0, b, _ => b
  | fuel + 1, b, token =>
      let (b, again) := b.react token
      if again then take fuel b token else b

/-- How often a token may be read: each time something is opened or closed. -/
def patience (b : Builder) : Nat :=
  2 * b.elements.length + 32

def isTag : Markup.Token → Bool
  | .opening _ _ _ => true
  | .closing _ => true
  | _ => false

/-- Every tag ends the reading of text. -/
def receive (b : Builder) (token : Markup.Token) : Builder :=
  let b := if isTag token then { b with content := .data } else b
  take b.patience b token

/-! ## Pages -/

def lexing (b : Builder) : Markup.Lexing where
  references := Markup.fullReferences
  mode := b.content
  element := b.contentElement
  sections := b.current?.any (·.space != .html)

/-- Reads all tokens; every token takes a character at least. -/
def run : Nat → Builder → List Char → Builder
  | 0, b, _ => b
  | _ + 1, b, [] => b
  | fuel + 1, b, c :: rest =>
      let (token, rest) := Markup.lexToken b.lexing c rest
      match token with
      | some token => (b.receive token).run fuel rest
      | none => b.run fuel rest

/-- The end of the page in each of its parts. -/
def endPage (b : Builder) : Reaction :=
  match b.mode with
  | .initial => again { b with mode := .beforeHtml, lenient := true }
  | .beforeHtml => again b.openRoot
  | .beforeHead => again (b.openHead { name := "head" })
  | .inHead => again b.closeHead
  | .inHeadNoscript => again b.closeHeadNoscript
  | .afterHead => again b.openBody
  | .text => again { b.pop with mode := b.resume }
  | .inTableText => again b.flushTableText
  | _ => done b

def finish : Nat → Builder → Builder
  | 0, b => b
  | fuel + 1, b =>
      let (b, again) := b.endPage
      if again then finish fuel b else b

end Builder

/-- The document of a page. -/
def ofPage (body : String) : List Node :=
  let cs := Text.unifyLineEnds body.toList
  ((Builder.run cs.length {} cs).finish 8).arena.tree

end Feuilleton.Document
