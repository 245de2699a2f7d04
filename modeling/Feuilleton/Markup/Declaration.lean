import Feuilleton.Markup.Token

/-!
# Comments and document types

A comment ends at two hyphens and a bracket, perhaps with an exclamation mark between them, or at
once. Every other declaration ends at the next bracket.
-/

namespace Feuilleton.Markup

/-! ## Comments -/

/-- Hyphens at the end of the page that would have begun the end of a comment. -/
def dropOpenEnd (cs : List Char) : List Char :=
  match cs.reverse with
  | '!' :: '-' :: '-' :: rest => rest.reverse
  | '-' :: '-' :: rest => rest.reverse
  | '-' :: rest => rest.reverse
  | _ => cs

/-- The content of a comment and what follows it; none if the comment does not end. -/
def closedComment? : List Char → Option (List Char × List Char)
  | '-' :: '-' :: '>' :: rest => some ([], rest)
  | '-' :: '-' :: '!' :: '>' :: rest => some ([], rest)
  | c :: rest => (closedComment? rest).map fun (content, after) => (c :: content, after)
  | [] => none

def commentContent (cs : List Char) : List Char × List Char :=
  match cs with
  | '>' :: rest => ([], rest)
  | '-' :: '>' :: rest => ([], rest)
  | cs => (closedComment? cs).getD (dropOpenEnd cs, [])

/-- What stands before the next bracket and behind it. -/
def untilBracket (cs : List Char) : List Char × List Char :=
  (cs.takeWhile (· != '>'), (cs.dropWhile (· != '>')).drop 1)

/-! ## Document types -/

def skipSpaces (cs : List Char) : List Char :=
  cs.dropWhile isSpace

/-- The text in quotes, whether it is closed, and what follows. -/
def quotedId? : List Char → Option (String × Bool × List Char)
  | quote :: rest =>
      if quote = '"' ∨ quote = '\'' then
        let content := rest.takeWhile (· != quote)
        let after := rest.drop content.length
        some (String.ofList (content.map shown), !after.isEmpty, after.drop 1)
      else none
  | [] => none

def keywordFollows (word : String) (cs : List Char) : Bool :=
  (cs.take word.length).map Char.toLower == word.toList

/-- A document type with its system identifier, which may be missing if `optional`. -/
def readSystemId (doctype : Doctype) (optional : Bool) (cs : List Char) : Doctype :=
  let cs := skipSpaces cs
  match quotedId? cs with
  | some (id, closed, _) => { doctype with systemId := some id, correct := closed }
  | none => { doctype with correct := optional && cs.isEmpty }

def readIds (doctype : Doctype) (cs : List Char) : Doctype :=
  let cs := skipSpaces cs
  if cs.isEmpty then doctype
  else if keywordFollows "public" cs then
    match quotedId? (skipSpaces (cs.drop 6)) with
    | some (id, true, rest) => readSystemId { doctype with publicId := some id } true rest
    | some (id, false, _) => { doctype with publicId := some id, correct := false }
    | none => { doctype with correct := false }
  else if keywordFollows "system" cs then readSystemId doctype false (cs.drop 6)
  else { doctype with correct := false }

/-- Reads a document type from what stands before its bracket. -/
def readDoctype (ended : Bool) (content : List Char) : Doctype :=
  let cs := skipSpaces content
  let name := String.ofList ((cs.takeWhile (!isSpace ·)).map fun c => shown c.toLower)
  if name.isEmpty then { name, correct := false }
  else
    let doctype := readIds { name } (cs.dropWhile (!isSpace ·))
    { doctype with correct := doctype.correct && ended }

end Feuilleton.Markup
