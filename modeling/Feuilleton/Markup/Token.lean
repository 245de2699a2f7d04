/-!
# Tokens of markup
-/

namespace Feuilleton.Markup

/-- How text is read: with tags and references, with references only, or as it stands, up to the
end tag of its element or to the end of the page. -/
inductive ContentMode
  | data
  | references
  | raw
  | script
  | plain
  deriving DecidableEq, Repr

structure Doctype where
  name : String
  publicId : Option String := none
  systemId : Option String := none
  correct : Bool := true
  deriving DecidableEq, Repr

/-- A start tag that the end of the page cuts off has its name only. -/
inductive Token
  | opening (name : String) (attributes : List (String × String)) (selfClosing : Bool)
  | closing (name : String)
  | text (content : List Char)
  | comment (content : List Char)
  | doctype (doctype : Doctype)
  | cut (name : String)
  deriving DecidableEq, Repr

/-- Blanks of markup: tab, line feed, form feed, carriage return and space. -/
def isSpace (c : Char) : Bool :=
  c == ' ' || c == '\n' || c == '\t' || c == '\r' || c == '\x0c'

/-- The character that replaces U+0000 where it cannot be left out. -/
def shown (c : Char) : Char :=
  if c = '\x00' then '\ufffd' else c

end Feuilleton.Markup
