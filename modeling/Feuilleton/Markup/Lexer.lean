import Feuilleton.Markup.Declaration
import Feuilleton.Markup.Script

/-!
# Lexing markup

One token at a time is read from the front of a page. What the next token is depends on how text
is read at that place, which the reader of the tokens decides.
-/

namespace Feuilleton.Markup

/-- How the next token is read: the mode, the element whose end tag ends the mode, and whether
sections of character data are recognised. -/
structure Lexing where
  references : ReferenceTable
  mode : ContentMode := .data
  element : String := ""
  sections : Bool := false

abbrev Lexed := Option Token × List Char

def lexedText (content : List Char) (rest : List Char) : Lexed :=
  (some (.text content), rest)

/-! ## Text -/

/-- A run of blanks, or a run of other text up to a character with a meaning of its own. -/
def lexRun (isStop : Char → Bool) (cs : List Char) : Lexed :=
  if cs.head?.any isSpace then lexedText (cs.takeWhile isSpace) (cs.dropWhile isSpace)
  else lexedText (cs.takeWhile (!isStop ·)) (cs.dropWhile (!isStop ·))

def stopsText (c : Char) : Bool :=
  c == '<' || c == '&' || c == '\x00'

/-- The reference behind an ampersand, or the ampersand itself. -/
def lexReference (table : ReferenceTable) (rest : List Char) : Lexed :=
  match table.find? false rest with
  | some reference => lexedText reference.text (rest.drop reference.length)
  | none => lexedText ['&'] rest

/-- Text that stands for itself, up to the end tag of its element. -/
def rawText (element : String) : List Char → List Char × List Char
  | [] => ([], [])
  | c :: rest =>
      if endTagFollows element (c :: rest) then ([], c :: rest)
      else
        let (text, after) := rawText element rest
        (shown c :: text, after)

/-! ## Tags and declarations -/

def lexOpening (table : ReferenceTable) (cs : List Char) : Lexed :=
  match tagEnd? table cs with
  | some tag => (some (.opening (tagName cs) tag.attributes tag.selfClosing), tag.rest)
  | none => (some (.cut (tagName cs)), [])

def lexClosing (table : ReferenceTable) (cs : List Char) : Lexed :=
  match tagEnd? table cs with
  | some tag => (some (.closing (tagName cs)), tag.rest)
  | none => (none, [])

def lexBogus (cs : List Char) : Lexed :=
  let (content, rest) := untilBracket cs
  (some (.comment (content.map shown)), rest)

/-- Text up to the end of a section of character data. -/
def sectionText : List Char → List Char × List Char
  | ']' :: ']' :: '>' :: rest => ([], rest)
  | c :: rest =>
      let (text, after) := sectionText rest
      (shown c :: text, after)
  | [] => ([], [])

def sectionMark : List Char := "[CDATA[".toList

/-- What follows a bracket and an exclamation mark. -/
def lexDeclaration (sections : Bool) (cs : List Char) : Lexed :=
  if ['-', '-'].isPrefixOf cs then
    let (content, rest) := commentContent (cs.drop 2)
    (some (.comment (content.map shown)), rest)
  else if keywordFollows "doctype" cs then
    let (content, rest) := untilBracket (cs.drop 7)
    let ended := (cs.drop 7).contains '>'
    (some (.doctype (readDoctype ended content)), rest)
  else if sections && sectionMark.isPrefixOf cs then
    let (text, rest) := sectionText (cs.drop sectionMark.length)
    if text.isEmpty then (none, rest) else lexedText text rest
  else lexBogus cs

def isTagLetter (c : Char) : Bool :=
  c.isAlpha

/-- What follows a bracket and a slash. -/
def lexSlash (table : ReferenceTable) : List Char → Lexed
  | [] => lexedText ['<', '/'] []
  | c :: rest =>
      if isTagLetter c then lexClosing table (c :: rest)
      else if c = '>' then (none, rest)
      else lexBogus (c :: rest)

/-- What follows an opening bracket. -/
def lexBracket (lexing : Lexing) : List Char → Lexed
  | [] => lexedText ['<'] []
  | c :: rest =>
      if isTagLetter c then lexOpening lexing.references (c :: rest)
      else if c = '/' then lexSlash lexing.references rest
      else if c = '!' then lexDeclaration lexing.sections rest
      else if c = '?' then lexBogus (c :: rest)
      else lexedText ['<'] (c :: rest)

/-! ## Tokens -/

/-- The end tag of the element, if it follows. -/
def lexElementEnd? (lexing : Lexing) (cs : List Char) : Option Lexed :=
  if endTagFollows lexing.element cs then some (lexClosing lexing.references (cs.drop 2))
  else none

/-- Reads the next token of a nonempty text, if it yields one, and what follows. -/
def lexToken (lexing : Lexing) (c : Char) (rest : List Char) : Lexed :=
  match lexing.mode with
  | .data =>
      if c = '<' then lexBracket lexing rest
      else if c = '&' then lexReference lexing.references rest
      else if c = '\x00' then lexedText [c] rest
      else lexRun stopsText (c :: rest)
  | .references =>
      if c = '<' then (lexElementEnd? lexing (c :: rest)).getD (lexedText [c] rest)
      else if c = '&' then lexReference lexing.references rest
      else if c = '\x00' then lexedText [shown c] rest
      else lexRun stopsText (c :: rest)
  | .raw =>
      match lexElementEnd? lexing (c :: rest) with
      | some lexed => lexed
      | none =>
          let (text, after) := rawText lexing.element (c :: rest)
          lexedText text after
  | .script =>
      match lexElementEnd? lexing (c :: rest) with
      | some lexed => lexed
      | none =>
          let (text, after) := scriptText .plain (c :: rest)
          lexedText text after
  | .plain => lexedText ((c :: rest).map shown) []

end Feuilleton.Markup
