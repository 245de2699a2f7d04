import Feuilleton.Grammar.Basic

/-!
# The theme of light novel sites

Sites of this theme show, in order: the cover image, the information block, the genre links, the
description, and the chapter list with one cell each for number, title, date and price. Paid
chapters carry a lock glyph.
-/

namespace Feuilleton.Grammar

/-- What sites of the theme differ in. -/
structure ThemeOptions where
  id : String
  sourceName : String
  site : String
  lang : String := "English"
  reverseChapters : Bool := false
  numbering : Numbering := .parsed
  hasLocked : Bool := true
  seriesPath : String := "/series/"
  searchPath : String := defaultSearchPath
  chapterListRequest : Option ChapterListRequest := none
  contentClass : String := "epcontent"
  stripStyleClasses : Bool := false
  deriving DecidableEq, Repr

def themeCover : CoverRules where
  image := [.classHas "ts-post-image"]

def themeGenres : GenreRules where
  container := [.classIs "genxed", .classIs "sertogenre"]
  link := [.tagIs "a"]

def themeSummary : SummaryRules where
  container := [.classIsOn "div" "entry-content", .attributeIsOn "div" "itemprop" "description"]

def themeInfo : InfoRules where
  container := [.classIs "spe", .classIs "serl"]
  label := [.tagIs "span"]
  statusContainer := [.classIsOn "div" "sertostat"]

def themeChapters : ChapterRules where
  container := [.classHas "eplister"]
  endTag := some "ul"
  item := [.tagIs "li"]
  number := [.classIs "epl-num"]
  title := [.classIs "epl-title"]
  date := [.classIs "epl-date"]
  price := [.classIs "epl-price"]

def lightNovel (options : ThemeOptions) : Grammar where
  id := options.id
  sourceName := options.sourceName
  site := options.site
  lang := options.lang
  cover := themeCover
  title := [.classIsOn "h1" "entry-title"]
  rating := [.attributeIs "itemprop" "ratingValue"]
  genres := themeGenres
  summary := themeSummary
  info := themeInfo
  chapters := themeChapters
  reverseChapters := options.reverseChapters
  numbering := options.numbering
  hasLocked := options.hasLocked
  seriesPath := options.seriesPath
  searchPath := options.searchPath
  chapterListRequest := options.chapterListRequest
  contentClass := options.contentClass
  stripStyleClasses := options.stripStyleClasses

/-! ## Known sites -/

def knownSites : List Grammar := [
  lightNovel {
    id := "knoxt", sourceName := "KnoxT", site := "https://knoxt.space/"
    reverseChapters := true },
  lightNovel {
    id := "kolnovel", sourceName := "Kol Novel", site := "https://kolnovel.site/"
    lang := "Arabic", reverseChapters := true, stripStyleClasses := true },
  lightNovel {
    id := "novelsparadise", sourceName := "Novels Paradise"
    site := "https://novelsparadise.site/", lang := "Arabic", reverseChapters := true },
  lightNovel {
    id := "allnovelread", sourceName := "AllNovelRead", site := "https://allnovelread.com/"
    lang := "Spanish", reverseChapters := true }]

def known? (id : String) : Option Grammar :=
  knownSites.find? (·.id == id)

end Feuilleton.Grammar
