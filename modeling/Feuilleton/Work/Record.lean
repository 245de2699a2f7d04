import Feuilleton.Number.Binary64
import Feuilleton.Text.Search
import Feuilleton.Vocabulary.Status

/-!
# Works and chapters

What is kept of a work's page: the facts about the work and its chapters in reading order.
-/

namespace Feuilleton

/-- Stands in where a page has no usable cover image. -/
def defaultCover : String :=
  "https://github.com/LNReader/lnreader-plugins/blob/master/icons/src/coverNotAvailable.webp?raw=true"

/-- Marks the names of chapters that have to be paid for. -/
def defaultLockGlyph : String := "🔒"

structure Chapter where
  path : String
  name : String := ""
  releaseTime : Option String := none
  number : Int := 0
  locked : Bool := false
  deriving DecidableEq, Repr

structure Work where
  path : String := ""
  name : String := ""
  cover : String := defaultCover
  summary : String := ""
  author : String := ""
  artist : String := ""
  status : Status := .unknown
  genres : List String := []
  rating : Option Binary64 := none
  chapters : List Chapter := []
  deriving DecidableEq, Repr

namespace Work

def genreLine (work : Work) : String :=
  Text.join ", " work.genres

/-- Neither a name nor a chapter was found. -/
def isEmpty (work : Work) : Bool :=
  work.name.isEmpty && work.chapters.isEmpty

end Work

end Feuilleton
