import Feuilleton.Markup.Closing
import Feuilleton.Markup.Collector
import Feuilleton.Markup.Lexer
import Feuilleton.Text.Blank

/-!
# Nesting of elements

The tags of a page become properly nested elements, one tag at a time and without looking ahead:
missing tags of the page's frame are implied, start tags close what cannot hold them, end tags
close everything inside their element, and the end of the page closes the rest.
-/

namespace Feuilleton.Markup

/-- Open elements, innermost first, and the signals so far in reverse. `headSeen` also holds once
a body was opened; `ignored` counts start tags of the frame that were left out. -/
structure Nesting where
  elements : List String := []
  headSeen : Bool := false
  bodySeen : Bool := false
  ignored : Nat := 0
  signals : List Signal := []
  deriving DecidableEq, Repr

namespace Nesting

/-! ## Opening and closing -/

def signal (n : Nesting) (s : Signal) : Nesting :=
  { n with signals := s :: n.signals }

def push (n : Nesting) (name : String) (attributes : List (String × String)) : Nesting :=
  { n with
    elements := name :: n.elements
    headSeen := n.headSeen || name == "head" || name == "body"
    bodySeen := n.bodySeen || name == "body"
    signals := .started name attributes :: n.signals }

/-- Closes the innermost `count` elements. -/
def close (n : Nesting) (count : Nat) : Nesting :=
  { n with
    elements := n.elements.drop count
    signals := (n.elements.take count).reverse.map .ended ++ n.signals }

/-- Closes elements as long as the start tag closes the innermost one. -/
def autoClose (n : Nesting) (startTag : String) : Nesting :=
  n.close (n.elements.takeWhile (isClosedBy · startTag)).length

def imply (n : Nesting) (name : String) : Nesting :=
  n.push name []

/-- Opens what must be open around a start tag. -/
def implyFrame (n : Nesting) (startTag : String) : Nesting :=
  if startTag == "html" then n
  else
    let n := if n.elements.isEmpty then n.imply "html" else n
    if startTag == "body" || startTag == "head" then n
    else if n.elements.length ≤ 1 && headElements.contains startTag then
      if n.headSeen then n else n.imply "head"
    else if frameElements.contains startTag || n.bodySeen || n.elements.contains "body" ||
        n.elements.contains "head" then n
    else n.imply "body"

/-- A start tag of the page's frame where that part cannot begin. -/
def isMisplaced (n : Nesting) (startTag : String) : Bool :=
  (startTag == "html" && !n.elements.isEmpty) ||
    (startTag == "head" && n.elements.length != 1) ||
    (startTag == "body" && n.elements.contains "body")

/-! ## Tokens -/

def startTag (n : Nesting) (name : String) (attributes : List (String × String))
    (selfClosing : Bool) : Nesting :=
  let n := (n.autoClose name).implyFrame name
  let n := if n.isMisplaced name then { n with ignored := n.ignored + 1 }
    else n.push name attributes
  if selfClosing || n.elements.head?.any emptyElements.contains then n.close 1 else n

def isFrame (name : String) : Bool :=
  name == "html" || name == "head" || name == "body"

def endTag (n : Nesting) (name : String) : Nesting :=
  if n.ignored ≠ 0 ∧ isFrame name then { n with ignored := n.ignored - 1 }
  else if n.elements.contains name then
    let inner := n.elements.takeWhile (· != name)
    if inner.any (rank name < rank ·) then n else n.close (inner.length + 1)
  else n

/-- Text in a place that holds no text but blanks. -/
def isBare (n : Nesting) : Bool :=
  match n.elements.head? with
  | none => true
  | some name => name == "html" || name == "head"

def data (n : Nesting) (content : List Char) : Nesting :=
  if content.isEmpty then n else n.signal (.data (String.ofList content))

/-- Opens what must be open around text. -/
def implyText (n : Nesting) : Nesting :=
  let n := if n.elements.head? = some "head" then n.autoClose "p" else n
  n.implyFrame "p"

def text (n : Nesting) (content : List Char) : Nesting :=
  let content := content.filter (· != '\x00')
  if n.isBare then
    let n := n.data (content.takeWhile isSpace)
    let rest := content.dropWhile isSpace
    if rest.isEmpty then n else n.implyText.data rest
  else n.data content

def firstOfEach (attributes : List (String × String)) : List (String × String) :=
  attributes.foldl
    (fun kept entry => if kept.any (·.1 == entry.1) then kept else kept ++ [entry]) []

def take (n : Nesting) : Token → Nesting
  | .opening name attributes selfClosing =>
      n.startTag name (firstOfEach attributes) selfClosing
  | .closing name => n.endTag name
  | .text content => n.text content
  | .comment _ => n
  | .doctype _ => n
  | .cut name => (n.autoClose name).implyFrame name

/-! ## Pages -/

def modeOf : String → ContentMode
  | "script" => .script
  | "style" | "iframe" | "noembed" | "noframes" | "xmp" => .raw
  | "title" | "textarea" => .references
  | "plaintext" => .plain
  | _ => .data

def lexing (n : Nesting) : Lexing where
  references := basicReferences
  mode := modeOf (n.elements.headD "")
  element := n.elements.headD ""

/-- Reads all tokens; every token takes a character at least. -/
def run : Nat → Nesting → List Char → Nesting
  | 0, n, _ => n
  | _ + 1, n, [] => n
  | fuel + 1, n, c :: rest =>
      let (token, rest) := lexToken n.lexing c rest
      match token with
      | some token => (n.take token).run fuel rest
      | none => n.run fuel rest

/-- Blanks, comments and the document type before the first content are left out. -/
def skipProlog : Nat → List Char → List Char
  | 0, cs => cs
  | fuel + 1, cs =>
      match cs with
      | '<' :: '?' :: rest => skipProlog fuel (untilBracket rest).2
      | '<' :: '!' :: '-' :: '-' :: rest => skipProlog fuel (commentContent rest).2
      | '<' :: '!' :: rest =>
          if keywordFollows "doctype" rest then skipProlog fuel (untilBracket rest).2
          else '<' :: '!' :: rest
      | c :: rest => if isSpace c then skipProlog fuel rest else c :: rest
      | [] => []

def dropMark : List Char → List Char
  | '\ufeff' :: rest => rest
  | cs => cs

def finish (n : Nesting) : Nesting :=
  n.close n.elements.length

def ofPage (body : String) : Nesting :=
  let cs := Text.unifyLineEnds (dropMark body.toList)
  (run cs.length {} (skipProlog cs.length cs)).finish

end Nesting

/-- The events of a page. -/
def events (body : String) : List Event :=
  Collector.collect (Nesting.ofPage body).signals.reverse

end Feuilleton.Markup
