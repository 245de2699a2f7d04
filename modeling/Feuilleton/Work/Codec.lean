import Feuilleton.Schema.Scalar
import Feuilleton.Work.Record

/-!
# Works as JSON
-/

namespace Feuilleton

namespace Chapter

def encode (chapter : Chapter) : Json :=
  .obj [
    ("path", .str chapter.path),
    ("name", .str chapter.name),
    ("release_time", .ofOption .str chapter.releaseTime),
    ("chapter_number", .int chapter.number),
    ("locked", .bool chapter.locked)]

def decode : Decoder Chapter :=
  Decoder.record fun members =>
    Chapter.mk <$> Decoder.required "path" Decoder.nonemptyText members
      <*> Decoder.optional "name" "" Decoder.text members
      <*> Decoder.optional "release_time" none (Decoder.nullable Decoder.text) members
      <*> Decoder.optional "chapter_number" 0 Decoder.int members
      <*> Decoder.optional "locked" false Decoder.bool members

end Chapter

namespace Work

def encode (work : Work) : Json :=
  .obj [
    ("path", .str work.path),
    ("name", .str work.name),
    ("cover", .str work.cover),
    ("summary", .str work.summary),
    ("author", .str work.author),
    ("artist", .str work.artist),
    ("status", .str work.status.name),
    ("genres", .ofStrings work.genres),
    ("rating", .ofOption .float work.rating),
    ("chapters", .arr (work.chapters.map Chapter.encode))]

def decode : Decoder Work :=
  Decoder.record fun members =>
    Work.mk <$> Decoder.optional "path" "" Decoder.text members
      <*> Decoder.optional "name" "" Decoder.text members
      <*> Decoder.optional "cover" defaultCover Decoder.text members
      <*> Decoder.optional "summary" "" Decoder.text members
      <*> Decoder.optional "author" "" Decoder.text members
      <*> Decoder.optional "artist" "" Decoder.text members
      <*> Decoder.optional "status" .unknown (Decoder.named Status.names) members
      <*> Decoder.optional "genres" [] (Decoder.list Decoder.text) members
      <*> Decoder.optional "rating" none (Decoder.nullable Decoder.float) members
      <*> Decoder.optional "chapters" [] (Decoder.list Chapter.decode) members

end Work

end Feuilleton
