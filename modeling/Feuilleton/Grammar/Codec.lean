import Feuilleton.Grammar.Basic
import Feuilleton.Grammar.Theme
import Feuilleton.Json.Printer
import Feuilleton.Json.Reader
import Feuilleton.Schema.Scalar

/-!
# Grammars as JSON

Encoding writes every field in the order of its declaration; decoding fills in what is left out.
-/

namespace Feuilleton

def Test.name : Test → String
  | tag => "tag"
  | attributeEquals => "attr_equals"
  | attributeContains => "attr_contains"

def Test.names : List (String × Test) :=
  [Test.tag, .attributeEquals, .attributeContains].map fun test => (test.name, test)

def Numbering.name : Numbering → String
  | parsed => "parsed"
  | position => "position"

def Numbering.names : List (String × Numbering) :=
  [Numbering.parsed, .position].map fun numbering => (numbering.name, numbering)

namespace Predicate

def encode (predicate : Predicate) : Json :=
  .obj [
    ("kind", .str predicate.test.name),
    ("value", .str predicate.value),
    ("attribute", .str predicate.key),
    ("tag", .ofOption .str predicate.tag)]

def decode : Decoder Predicate :=
  Decoder.record fun members =>
    Predicate.mk <$> Decoder.required "kind" (Decoder.named Test.names) members
      <*> Decoder.required "value" Decoder.text members
      <*> Decoder.optional "attribute" "class" Decoder.text members
      <*> Decoder.optional "tag" none (Decoder.nullable Decoder.text) members

def encodeAll (predicates : List Predicate) : Json :=
  .arr (predicates.map encode)

def decodeAll (name : String) (default : List Predicate) (members : Members) :
    Checked (List Predicate) :=
  Decoder.optional name default (Decoder.list decode) members

end Predicate

/-! ## Rules -/

namespace CoverRules

def encode (rules : CoverRules) : Json :=
  .obj [
    ("image", Predicate.encodeAll rules.image),
    ("name_attribute", .str rules.nameAttribute),
    ("source_attributes", .ofStrings rules.sourceAttributes)]

def decode : Decoder CoverRules :=
  Decoder.record fun members =>
    CoverRules.mk <$> Predicate.decodeAll "image" [] members
      <*> Decoder.optional "name_attribute" "title" Decoder.text members
      <*> Decoder.optional "source_attributes" ["data-src", "src"] (Decoder.list Decoder.text)
        members

end CoverRules

namespace GenreRules

def encode (rules : GenreRules) : Json :=
  .obj [
    ("container", Predicate.encodeAll rules.container),
    ("link", Predicate.encodeAll rules.link)]

def decode : Decoder GenreRules :=
  Decoder.record fun members =>
    GenreRules.mk <$> Predicate.decodeAll "container" [] members
      <*> Predicate.decodeAll "link" [.tagIs "a"] members

end GenreRules

namespace SummaryRules

def encode (rules : SummaryRules) : Json :=
  .obj [
    ("container", Predicate.encodeAll rules.container),
    ("boundary_tags", .ofStrings rules.boundaryTags)]

def decode : Decoder SummaryRules :=
  Decoder.record fun members =>
    SummaryRules.mk <$> Predicate.decodeAll "container" [] members
      <*> Decoder.optional "boundary_tags" ["div", "script"] (Decoder.list Decoder.text) members

end SummaryRules

namespace InfoRules

def encode (rules : InfoRules) : Json :=
  .obj [
    ("container", Predicate.encodeAll rules.container),
    ("label", Predicate.encodeAll rules.label),
    ("status_container", Predicate.encodeAll rules.statusContainer)]

def decode : Decoder InfoRules :=
  Decoder.record fun members =>
    InfoRules.mk <$> Predicate.decodeAll "container" [] members
      <*> Predicate.decodeAll "label" [.tagIs "span"] members
      <*> Predicate.decodeAll "status_container" [] members

end InfoRules

namespace ChapterRules

def encode (rules : ChapterRules) : Json :=
  .obj [
    ("container", Predicate.encodeAll rules.container),
    ("end_tag", .ofOption .str rules.endTag),
    ("item", Predicate.encodeAll rules.item),
    ("link_tag", .str rules.linkTag),
    ("link_attribute", .str rules.linkAttribute),
    ("number", Predicate.encodeAll rules.number),
    ("title", Predicate.encodeAll rules.title),
    ("date", Predicate.encodeAll rules.date),
    ("price", Predicate.encodeAll rules.price),
    ("locked_item", Predicate.encodeAll rules.lockedItem),
    ("lock_glyph", .str rules.lockGlyph)]

def decode : Decoder ChapterRules :=
  Decoder.record fun members =>
    ChapterRules.mk <$> Predicate.decodeAll "container" [] members
      <*> Decoder.optional "end_tag" (some "ul") (Decoder.nullable Decoder.text) members
      <*> Predicate.decodeAll "item" [.tagIs "li"] members
      <*> Decoder.optional "link_tag" "a" Decoder.text members
      <*> Decoder.optional "link_attribute" "href" Decoder.text members
      <*> Predicate.decodeAll "number" [] members
      <*> Predicate.decodeAll "title" [] members
      <*> Predicate.decodeAll "date" [] members
      <*> Predicate.decodeAll "price" [] members
      <*> Predicate.decodeAll "locked_item" [] members
      <*> Decoder.optional "lock_glyph" defaultLockGlyph Decoder.text members

end ChapterRules

namespace ChapterListRequest

def encode (request : ChapterListRequest) : Json :=
  .obj [
    ("path", .str request.path),
    ("method", .str request.method),
    ("data", .obj (request.data.entries.map fun (key, value) => (key, .str value)))]

def decode : Decoder ChapterListRequest :=
  Decoder.record fun members =>
    ChapterListRequest.mk <$> Decoder.optional "path" ({} : ChapterListRequest).path Decoder.text
        members
      <*> Decoder.optional "method" "POST" Decoder.text members
      <*> Decoder.optional "data" ∅ (Decoder.orderedMap Decoder.text) members

end ChapterListRequest

/-! ## Grammars -/

namespace Grammar

def encode (grammar : Grammar) : Json :=
  .obj [
    ("id", .str grammar.id),
    ("source_name", .str grammar.sourceName),
    ("site", .str grammar.site),
    ("lang", .str grammar.lang),
    ("cover", grammar.cover.encode),
    ("title", Predicate.encodeAll grammar.title),
    ("rating", Predicate.encodeAll grammar.rating),
    ("genres", grammar.genres.encode),
    ("summary", grammar.summary.encode),
    ("info", grammar.info.encode),
    ("chapters", grammar.chapters.encode),
    ("reverse_chapters", .bool grammar.reverseChapters),
    ("ordinal_policy", .str grammar.numbering.name),
    ("has_locked", .bool grammar.hasLocked),
    ("series_path", .str grammar.seriesPath),
    ("search_path", .str grammar.searchPath),
    ("chapter_list_request", .ofOption ChapterListRequest.encode grammar.chapterListRequest),
    ("content_class", .str grammar.contentClass),
    ("strip_style_classes", .bool grammar.stripStyleClasses)]

def decode : Decoder Grammar :=
  Decoder.record fun members =>
    Grammar.mk <$> Decoder.required "id" Decoder.text members
      <*> Decoder.required "source_name" Decoder.text members
      <*> Decoder.required "site" Decoder.text members
      <*> Decoder.optional "lang" "English" Decoder.text members
      <*> Decoder.optional "cover" {} CoverRules.decode members
      <*> Predicate.decodeAll "title" [] members
      <*> Predicate.decodeAll "rating" [] members
      <*> Decoder.optional "genres" {} GenreRules.decode members
      <*> Decoder.optional "summary" {} SummaryRules.decode members
      <*> Decoder.optional "info" {} InfoRules.decode members
      <*> Decoder.optional "chapters" {} ChapterRules.decode members
      <*> Decoder.optional "reverse_chapters" false Decoder.bool members
      <*> Decoder.optional "ordinal_policy" .parsed (Decoder.named Numbering.names) members
      <*> Decoder.optional "has_locked" false Decoder.bool members
      <*> Decoder.optional "series_path" "/series/" Decoder.text members
      <*> Decoder.optional "search_path" defaultSearchPath Decoder.text members
      <*> Decoder.optional "chapter_list_request" none
        (Decoder.nullable ChapterListRequest.decode) members
      <*> Decoder.optional "content_class" "epcontent" Decoder.text members
      <*> Decoder.optional "strip_style_classes" false Decoder.bool members

/-- The options of a theme grammar. -/
def ThemeOptions.decode : Decoder ThemeOptions :=
  Decoder.record fun members =>
    ThemeOptions.mk <$> Decoder.required "id" Decoder.text members
      <*> Decoder.required "source_name" Decoder.text members
      <*> Decoder.required "site" Decoder.text members
      <*> Decoder.optional "lang" "English" Decoder.text members
      <*> Decoder.optional "reverse_chapters" false Decoder.bool members
      <*> Decoder.optional "ordinal_policy" .parsed (Decoder.named Numbering.names) members
      <*> Decoder.optional "has_locked" true Decoder.bool members
      <*> Decoder.optional "series_path" "/series/" Decoder.text members
      <*> Decoder.optional "search_path" defaultSearchPath Decoder.text members
      <*> Decoder.optional "chapter_list_request" none
        (Decoder.nullable ChapterListRequest.decode) members
      <*> Decoder.optional "content_class" "epcontent" Decoder.text members
      <*> Decoder.optional "strip_style_classes" false Decoder.bool members

/-- Reads a grammar from the text of a file. -/
def ofText (text : String) : Checked Grammar :=
  match Json.read? text with
  | some value => decode value
  | none => .issue .malformedText

def toText (grammar : Grammar) : String :=
  grammar.encode.indented

end Grammar

end Feuilleton
