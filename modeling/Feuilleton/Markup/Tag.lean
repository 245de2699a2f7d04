import Feuilleton.Markup.Reference
import Feuilleton.Markup.Token

/-!
# Tags

What stands between the name of a tag and its end: attributes with and without values, and
perhaps a slash. Almost any character may begin the name of an attribute.
-/

namespace Feuilleton.Markup

/-- Where the reader stands. What was read of a name or a value is kept in reverse; `slash` says
that a slash has just been read. -/
inductive TagPlace
  | between (slash : Bool)
  | name (name : List Char)
  | afterName (name : List Char)
  | beforeValue (name : List Char)
  | quoted (name : List Char) (quote : Char) (value : List Char)
  | unquoted (name : List Char) (value : List Char)
  deriving DecidableEq, Repr

abbrev AttributeList := List (String × String)

structure TagEnd where
  attributes : AttributeList
  selfClosing : Bool
  rest : List Char
  deriving DecidableEq, Repr

def nameChar (c : Char) : Char :=
  shown c.toLower

/-- Adds an attribute to the ones read so far, which are in reverse. -/
def addAttribute (table : ReferenceTable) (name value : List Char) (done : AttributeList) :
    AttributeList :=
  (String.ofList name.reverse, table.attributeValue value.reverse) :: done

/-- Reads to the end of a tag; none if the page ends before. -/
def tagFrom (table : ReferenceTable) :
    TagPlace → AttributeList → List Char → Option TagEnd
  | _, _, [] => none
  | .between slash, done, c :: rest =>
      if isSpace c then tagFrom table (.between false) done rest
      else if c = '>' then some ⟨done.reverse, slash, rest⟩
      else if c = '/' then tagFrom table (.between true) done rest
      else tagFrom table (.name [nameChar c]) done rest
  | .name name, done, c :: rest =>
      if isSpace c then tagFrom table (.afterName name) done rest
      else if c = '>' then some ⟨(addAttribute table name [] done).reverse, false, rest⟩
      else if c = '/' then tagFrom table (.between true) (addAttribute table name [] done) rest
      else if c = '=' then tagFrom table (.beforeValue name) done rest
      else tagFrom table (.name (nameChar c :: name)) done rest
  | .afterName name, done, c :: rest =>
      if isSpace c then tagFrom table (.afterName name) done rest
      else if c = '>' then some ⟨(addAttribute table name [] done).reverse, false, rest⟩
      else if c = '/' then tagFrom table (.between true) (addAttribute table name [] done) rest
      else if c = '=' then tagFrom table (.beforeValue name) done rest
      else tagFrom table (.name [nameChar c]) (addAttribute table name [] done) rest
  | .beforeValue name, done, c :: rest =>
      if isSpace c then tagFrom table (.beforeValue name) done rest
      else if c = '"' ∨ c = '\'' then tagFrom table (.quoted name c []) done rest
      else if c = '>' then some ⟨(addAttribute table name [] done).reverse, false, rest⟩
      else tagFrom table (.unquoted name [shown c]) done rest
  | .quoted name quote value, done, c :: rest =>
      if c = quote then tagFrom table (.between false) (addAttribute table name value done) rest
      else tagFrom table (.quoted name quote (shown c :: value)) done rest
  | .unquoted name value, done, c :: rest =>
      if isSpace c then tagFrom table (.between false) (addAttribute table name value done) rest
      else if c = '>' then some ⟨(addAttribute table name value done).reverse, false, rest⟩
      else tagFrom table (.unquoted name (shown c :: value)) done rest

def endsTagName (c : Char) : Bool :=
  isSpace c || c == '/' || c == '>'

def tagName (cs : List Char) : String :=
  String.ofList ((cs.takeWhile (!endsTagName ·)).map nameChar)

/-- The end of the tag whose name begins here. -/
def tagEnd? (table : ReferenceTable) (cs : List Char) : Option TagEnd :=
  tagFrom table (.between false) [] (cs.dropWhile (!endsTagName ·))

/-! ## End tags in text -/

/-- The text goes on with `mark` and the name of a tag that ends there. -/
def tagFollows (mark name : List Char) (cs : List Char) : Bool :=
  mark.isPrefixOf cs &&
    (let cs := cs.drop mark.length
     (cs.take name.length).map Char.toLower == name &&
       (cs.drop name.length).head?.any endsTagName)

def endTagFollows (name : String) (cs : List Char) : Bool :=
  tagFollows ['<', '/'] name.toList cs

end Feuilleton.Markup
