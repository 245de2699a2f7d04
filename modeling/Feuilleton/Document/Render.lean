import Feuilleton.Document.Node

/-!
# Writing documents

Attributes are written in the order of their names and with double quotes, if that is possible
without references. Attributes that hold lists have one space between their items. Elements
without content are closed at once; scripts and styles are written as they stand.
-/

namespace Feuilleton.Document

/-! ## Text -/

def escapeChar (c : Char) : List Char :=
  if c = '&' then "&amp;".toList
  else if c = '<' then "&lt;".toList
  else if c = '>' then "&gt;".toList
  else [c]

def escape (s : String) : List Char :=
  s.toList.flatMap escapeChar

/-! ## Attributes -/

/-- Attributes that hold a list, with the elements on which they do; none stands for all. -/
def listAttributes : List (String × List String) := [
  ("class", []),
  ("accesskey", []),
  ("dropzone", []),
  ("rel", ["a", "link", "area"]),
  ("rev", ["a", "link"]),
  ("headers", ["td", "th"]),
  ("accept-charset", ["form"]),
  ("archive", ["object"]),
  ("sizes", ["icon"]),
  ("sandbox", ["iframe"]),
  ("for", ["output"])]

def holdsList (name key : String) : Bool :=
  match listAttributes.lookup key with
  | some names => names.isEmpty || names.contains name
  | none => false

def writtenEncoding : String := "utf-8"

def charsetMark : List Char := "charset=".toList

/-- The text behind a mark of an encoding, up to the next semicolon, is left out. -/
def redeclare (fuel : Nat) (fresh : Bool) (cs : List Char) : List Char :=
  match fuel, cs with
  | 0, cs => cs
  | _, [] => []
  | fuel + 1, c :: rest =>
      if fresh && charsetMark.isPrefixOf (c :: rest) then
        charsetMark ++ writtenEncoding.toList ++
          redeclare fuel false ((c :: rest).dropWhile (· != ';'))
      else c :: redeclare fuel (c == ';' || Text.isBlank c) rest

/-- A page declares the encoding in which it is written. -/
def declaredValue (attributes : Attributes) (key value : String) : String :=
  if (attributes.get? "charset").isSome then
    if key == "charset" then writtenEncoding else value
  else if key == "content" &&
      (attributes.get? "http-equiv").any (fun s => s.map Char.toLower == "content-type") then
    String.ofList (redeclare value.length true value.toList)
  else value

def attributeValue (name : String) (attributes : Attributes) (key value : String) : String :=
  if holdsList name key then Text.join " " (Text.words value)
  else if name == "meta" then declaredValue attributes key value
  else value

def quoteChars (c : Char) : List Char :=
  if c = '"' then "&quot;".toList else [c]

def quotedValue (value : List Char) : List Char :=
  if value.contains '"' then
    if value.contains '\'' then '"' :: (value.flatMap quoteChars ++ ['"'])
    else '\'' :: (value ++ ['\''])
  else '"' :: (value ++ ['"'])

def attributeChars (name : String) (attributes : Attributes) (entry : String × String) :
    List Char :=
  ' ' :: (entry.1.toList ++ '=' ::
    quotedValue (escape (attributeValue name attributes entry.1 entry.2)))

def attributesChars (name : String) (attributes : Attributes) : List Char :=
  (attributes.entries.mergeSort (fun a b => a.1 ≤ b.1)).flatMap (attributeChars name attributes)

/-! ## Nodes -/

/-- Elements that are closed at once if they are empty. -/
def voidElements : List String := [
  "area", "base", "br", "col", "embed", "hr", "img", "input", "keygen", "link", "menuitem", "meta",
  "param", "source", "track", "wbr", "basefont", "bgsound", "command", "frame", "image", "isindex",
  "nextid", "spacer"]

def isRaw (name : String) : Bool :=
  name == "script" || name == "style"

mutual

def Node.chars (raw : Bool) : Node → List Char
  | .element name attributes children =>
      let head := '<' :: (name.toList ++ attributesChars name attributes)
      if children.isEmpty && voidElements.contains name then head ++ ['/', '>']
      else
        head ++ '>' :: (allChars (isRaw name) children ++ '<' :: '/' :: (name.toList ++ ['>']))
  | .text content => if raw then content.toList else escape content
  | .comment content => "<!--".toList ++ content.toList ++ "-->".toList

def allChars (raw : Bool) : List Node → List Char
  | [] => []
  | node :: rest => node.chars raw ++ allChars raw rest

end

def Node.render (node : Node) : String :=
  String.ofList (node.chars false)

end Feuilleton.Document
