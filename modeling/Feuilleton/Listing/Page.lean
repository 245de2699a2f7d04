import Feuilleton.Address.Relative
import Feuilleton.Document.Reading
import Feuilleton.Grammar.Basic
import Feuilleton.Schema.Scalar
import Feuilleton.Work.Record

/-!
# Listing pages

A page of the catalogue or of search results holds one article for each work, with a titled link
and a cover.
-/

namespace Feuilleton

open Document

/-! ## Entries -/

/-- One work on a page of the catalogue or of search results. -/
structure ListedWork where
  name : String
  path : String
  cover : String := defaultCover
  deriving DecidableEq, Repr

namespace ListedWork

def encode (entry : ListedWork) : Json :=
  .obj [("name", .str entry.name), ("path", .str entry.path), ("cover", .str entry.cover)]

def decode : Decoder ListedWork :=
  Decoder.record fun members =>
    ListedWork.mk <$> Decoder.required "name" Decoder.text members
      <*> Decoder.required "path" Decoder.text members
      <*> Decoder.optional "cover" defaultCover Decoder.text members

/-! ## Pages -/

/-- The first link below a node that has both an address and a title, even empty ones. -/
def titledLink? (node : Node) : Option Node :=
  node.descendants.find? fun inner =>
    inner.isNamed "a" && (inner.attribute? "href").isSome && (inner.attribute? "title").isSome

/-- The value of an attribute, unless it is empty. -/
def filled? (key : String) (node : Node) : Option String :=
  (node.attribute? key).filter (!·.isEmpty)

def coverOf (node : Node) : String :=
  match node.descendants.find? (·.isNamed "img") with
  | some image => ((filled? "data-src" image).or (filled? "src" image)).getD defaultCover
  | none => defaultCover

def ofArticle? (site : String) (article : Node) : Option ListedWork :=
  (titledLink? article).bind fun link =>
    let name := Text.trim ((link.attribute? "title").getD "")
    let url := Text.trim ((link.attribute? "href").getD "")
    if name.isEmpty || url.isEmpty then none
    else some { name, path := Address.relativePath url site, cover := coverOf article }

/-- The works of a document, in its order. -/
def ofDocument (site : String) (nodes : List Node) : List ListedWork :=
  ((preorder nodes).filter (·.isNamed "article")).filterMap (ofArticle? site)

/-- The works on a page. -/
def ofPage (site html : String) : List ListedWork :=
  if Text.isBlankText html then [] else ofDocument site (Document.ofPage html)

end ListedWork

end Feuilleton
