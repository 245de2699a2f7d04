import Feuilleton.Address.Filter
import Feuilleton.Address.Percent
import Feuilleton.Address.Slashes
import Feuilleton.Grammar.Basic
import Feuilleton.Template.Render

/-!
# Addresses of catalogue pages

The catalogue of a site is asked for by page, order and filters; search results by page and term.
Only the term is percent-encoded.
-/

namespace Feuilleton.Grammar

def filterPart (key : String) (value : FilterValue) : String :=
  Text.join "" (value.written.map fun item => "&" ++ key ++ "=" ++ item)

def filterParts (filters : Filters) : String :=
  Text.join "" (filters.entries.map fun (key, value) => filterPart key value)

/-- The address as a text, whether or not its numbers can be written. -/
def popularUrl (g : Grammar) (page : Int) (latest : Bool) (filters : Filters) : String :=
  Address.collapseSlashes
    (g.site ++ g.seriesPath ++ "?page=" ++ Text.intText page ++
      (if latest then "&order=latest" else "") ++ filterParts filters)

/-- The address of a page of the catalogue. Whichever number in it cannot be written, the failure
is the same. -/
def catalogueUrl (g : Grammar) (page : Int) (latest : Bool) (filters : Filters) :
    Except Template.Error String :=
  if Text.IsWritable page ∧ filters.entries.all (·.2.isWritable) then
    .ok (g.popularUrl page latest filters)
  else .error .tooManyDigits

def searchUrl (g : Grammar) (term : String) (page : Int) : Except Template.Error String := do
  let path ← Template.render
    [("page", .whole page), ("term", .text (Address.percentEncode term))] g.searchPath
  .ok (g.site ++ path)

/-- The address of a chapter list that is served by itself. -/
def chapterListUrl (g : Grammar) (request : ChapterListRequest) (path : String) :
    Except Template.Error String :=
  Template.render [("site", .text g.site), ("path", .text path)] request.path

end Feuilleton.Grammar
