import Feuilleton.Access.Guard
import Feuilleton.Address.Catalogue
import Feuilleton.ChapterPage.Content
import Feuilleton.Listing.Page
import Feuilleton.Session.Reading
import Feuilleton.Session.Visit

/-!
# Sessions

A session asks one site for its pages: works, the catalogue, search results and chapters. Every
page passes the guard before it is read. Where a chapter list that is served by itself cannot be
had, the work is still read, without these chapters; a blocked one is a failure.
-/

namespace Feuilleton

structure Session where
  reader : Reader
  transport : Transport

/-- Without a network nothing can be fetched. -/
def Transport.offline : Transport := fun request =>
  .error (.unreachable request.url 0 (some "offline parser has no transport"))

namespace Session

def grammar (s : Session) : Grammar := s.reader.grammar

/-- The body of a page that may be read. -/
def fetchBody (s : Session) (request : Request) (search : Bool) : Visit String := do
  let response ← Visit.fetch s.transport request
  Visit.ofExcept (ensureAccess request.url response search)

/-! ## Works -/

/-- Failures that only cost the chapters of a list. -/
def isBearable : Failure → Bool
  | .unreachable _ _ _ => true
  | .emptyDocument => true
  | _ => false

def fetchList (s : Session) (request : Request) : Visit (List Event) :=
  let list : Visit (List Event) := do
    let body ← s.fetchBody request false
    Visit.ofExcept (eventsOf (Page.ofText body).body)
  list.recover fun failure => if isBearable failure then some [] else none

/-- The events of the chapter list that is served by itself, if there is one. -/
def fetchChapterList (s : Session) (path referrer : String) : Visit (List Event) :=
  match s.grammar.chapterListRequest with
  | none => pure []
  | some list => do
      let url ← Visit.ofExcept ((s.grammar.chapterListUrl list path).mapError .template)
      s.fetchList {
        url
        method := list.method
        data := if list.data.entries.isEmpty then none else some list.data
        referrer := some referrer }

def fetchWork (s : Session) (path : String) : Visit Work := do
  let url := s.grammar.site ++ path
  let body ← s.fetchBody { url } false
  let page := Page.ofText body
  let later ← s.fetchChapterList path url
  let events ← Visit.ofExcept (eventsOf page.body)
  Visit.ofExcept (s.reader.extractEvents (events ++ later) path)

/-! ## Listings and chapters -/

def fetchListing (s : Session) (page : Int) (latest : Bool) (filters : Filters) :
    Visit (List ListedWork) := do
  let url ← Visit.ofExcept ((s.grammar.catalogueUrl page latest filters).mapError .template)
  let body ← s.fetchBody { url } false
  pure (ListedWork.ofPage s.grammar.site body)

def search (s : Session) (term : String) (page : Int) : Visit (List ListedWork) := do
  let url ← Visit.ofExcept ((s.grammar.searchUrl term page).mapError .template)
  let body ← s.fetchBody { url } true
  pure (ListedWork.ofPage s.grammar.site body)

def fetchChapter (s : Session) (path : String) : Visit String := do
  let body ← s.fetchBody { url := s.grammar.site ++ path } false
  Visit.ofExcept (ChapterPage.content s.grammar (Page.ofText body).body)

end Session

end Feuilleton
