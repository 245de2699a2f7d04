import Feuilleton.Encoding.Utf8
import Feuilleton.Text.Lowercase

/-!
# The declared encoding of a page

A page declares its encoding in a `meta` tag near its beginning. As in browsers, some old labels
stand for the Windows code page that contains them.
-/

namespace Feuilleton.Encoding

def isAsciiWord (c : Char) : Bool :=
  Text.isAsciiAlphanumeric c || c == '_'

def isLabelChar (c : Char) : Bool :=
  isAsciiWord c || c == '.' || c == ':' || c == '-'

def isAsciiSpace (c : Char) : Bool :=
  c == ' ' || ('\t' ≤ c && c ≤ '\r')

/-- What follows a word at the beginning, in any case of ASCII letters. -/
def afterWord? (word : String) (cs : List Char) : Option (List Char) :=
  let size := word.toList.length
  if (cs.take size).map Char.toLower = word.toList then some (cs.drop size) else none

def skipQuote : List Char → List Char
  | c :: rest => if c = '"' ∨ c = '\'' then rest else c :: rest
  | [] => []

/-- The label behind the word `charset`: an equals sign and a label, perhaps quoted. -/
def labelAfter? (cs : List Char) : Option (List Char) :=
  match cs.dropWhile isAsciiSpace with
  | '=' :: rest =>
      let rest := (skipQuote (rest.dropWhile isAsciiSpace)).dropWhile isAsciiSpace
      let label := rest.takeWhile isLabelChar
      if label.isEmpty then none else some label
  | _ => none

/-- The first label before the end of the tag. -/
def labelInTag? : List Char → Option (List Char)
  | [] => none
  | c :: rest =>
      match (afterWord? "charset" (c :: rest)).bind labelAfter? with
      | some label => some label
      | none => if c = '>' then none else labelInTag? rest

def labelInTags? : List Char → Option (List Char)
  | [] => none
  | c :: rest =>
      let tag? := (afterWord? "<meta" (c :: rest)).filter fun after => !after.head?.any isAsciiWord
      match tag?.bind labelInTag? with
      | some label => some label
      | none => labelInTags? rest

/-- Only so many bytes at the beginning are searched for a declaration. -/
def headBytes : Nat := 2048

/-- Labels that stand for a Windows code page. -/
def windowsLabels : List (String × String) := [
  ("iso-8859-1", "windows-1252"),
  ("iso8859-1", "windows-1252"),
  ("iso88591", "windows-1252"),
  ("latin-1", "windows-1252"),
  ("latin1", "windows-1252"),
  ("us-ascii", "windows-1252"),
  ("ascii", "windows-1252"),
  ("iso-8859-6", "windows-1256"),
  ("iso-8859-9", "windows-1254"),
  ("iso-8859-11", "windows-874")]

def defaultLabel : String := "utf-8"

/-- The label of the encoding that a browser would use. -/
def declaredLabel (bytes : Bytes) : String :=
  match labelInTags? ((bytes.take headBytes).map fun b => Char.ofNat b.toNat) with
  | none => defaultLabel
  | some label =>
      let label := String.ofList (label.map Char.toLower)
      (windowsLabels.lookup label).getD label

end Feuilleton.Encoding
