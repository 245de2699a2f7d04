import Feuilleton.Grammar.Predicate
import Feuilleton.Work.Record

/-!
# Site grammars

A grammar is everything that is known about one site: which open tags lead into which part of a
work's page, where the cells of a chapter list stand, and how the site builds its addresses.
-/

namespace Feuilleton

/-! ## Rules for the parts of a page -/

/-- The cover image; its tag also carries the name of the work. -/
structure CoverRules where
  image : List Predicate := []
  nameAttribute : String := "title"
  sourceAttributes : List String := ["data-src", "src"]
  deriving DecidableEq, Repr

structure GenreRules where
  container : List Predicate := []
  link : List Predicate := [.tagIs "a"]
  deriving DecidableEq, Repr

/-- Text inside a boundary tag is not part of the summary. -/
structure SummaryRules where
  container : List Predicate := []
  boundaryTags : List String := ["div", "script"]
  deriving DecidableEq, Repr

/-- A status container holds nothing but the value of the status. -/
structure InfoRules where
  container : List Predicate := []
  label : List Predicate := [.tagIs "span"]
  statusContainer : List Predicate := []
  deriving DecidableEq, Repr

/-- Without an end tag the list ends with the tag that opened it. -/
structure ChapterRules where
  container : List Predicate := []
  endTag : Option String := some "ul"
  item : List Predicate := [.tagIs "li"]
  linkTag : String := "a"
  linkAttribute : String := "href"
  number : List Predicate := []
  title : List Predicate := []
  date : List Predicate := []
  price : List Predicate := []
  lockedItem : List Predicate := []
  lockGlyph : String := defaultLockGlyph
  deriving DecidableEq, Repr

/-! ## Grammars -/

/-- Chapter numbers are read from the page or counted in the final list. -/
inductive Numbering
  | parsed
  | position
  deriving DecidableEq, Repr

/-- A second request that some sites need for the list of chapters. The path is a template over
`site` and `path`. -/
structure ChapterListRequest where
  path : String := "\x7bsite\x7d\x7bpath\x7dajax/chapters/"
  method : String := "POST"
  data : OrderedMap String := ∅
  deriving DecidableEq, Repr

/-- The address of search results: a template over `page` and `term`. -/
def defaultSearchPath : String := "page/\x7bpage\x7d/?s=\x7bterm\x7d"

structure Grammar where
  id : String
  sourceName : String
  site : String
  lang : String := "English"
  cover : CoverRules := {}
  title : List Predicate := []
  rating : List Predicate := []
  genres : GenreRules := {}
  summary : SummaryRules := {}
  info : InfoRules := {}
  chapters : ChapterRules := {}
  reverseChapters : Bool := false
  numbering : Numbering := .parsed
  hasLocked : Bool := false
  seriesPath : String := "/series/"
  searchPath : String := defaultSearchPath
  chapterListRequest : Option ChapterListRequest := none
  contentClass : String := "epcontent"
  stripStyleClasses : Bool := false
  deriving DecidableEq, Repr

end Feuilleton
