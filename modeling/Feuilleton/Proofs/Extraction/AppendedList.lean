import Feuilleton.Proofs.Extraction.ListCourse
import Feuilleton.Proofs.Extraction.ThemeTags

/-!
# Chapter lists behind a page

Some sites serve the chapter list apart from the page of the work, and it is read behind the page as
if it belonged to it. Of a page of the theme without a list of its own, the chapters of such a list
depend on the name of the work alone, and on whether there are a cover and a rating.
-/

namespace Feuilleton

def State.ofDraft (work : WorkDraft) : State where
  work := work

namespace WorkDraft

def nameAndCover (work : WorkDraft) : WorkDraft where
  name := work.name
  cover := work.cover

def nameCoverAndRating (work : WorkDraft) : WorkDraft where
  name := work.name
  cover := work.cover
  rating := work.rating

end WorkDraft

namespace State

open Grammar

variable {g : Grammar} {p : Policy} {o : ThemeOptions} {path : String} {page : Forest}

def records? (outcome : Except Text.NumeralTooLong State) :
    Except Text.NumeralTooLong (List Chapter) :=
  outcome.map (·.chapters.records)

/-- The page is read, and what follows it gives the chapters that it gives behind nothing but this
view of the page's draft. -/
def ListReads (view : WorkDraft → WorkDraft) (g : Grammar) (p : Policy) (path : String)
    (page : Forest) : Prop :=
  ∃ s, (initial path).run g p page.events = .ok s ∧ ∀ list : List Event,
    records? ((initial path).run g p (page.events ++ list)) =
      records? ((ofDraft (view s.work)).run g p list)

theorem Alike.records_eq {first second : Except Text.NumeralTooLong State}
    (h : Alike SameList first second) : records? first = records? second := by
  cases h with
  | error tooLong => rfl
  | ok hsame => exact congrArg (fun c => Except.ok c.records) hsame.chapters

theorem listReads_of_view (view : WorkDraft → WorkDraft)
    (hname : ∀ work, (view work).name = work.name)
    (hcover : ∀ work, (view work).cover.isSome = work.cover.isSome)
    (hrating : ∀ work, (view work).rating.isNone = work.rating.isNone)
    (hlist : page.OnTags fun name attributes =>
      anyHolds (lightNovel o).chapters.container name attributes = false) :
    ListReads view (lightNovel o) p path page := by
  obtain ⟨s, hs, -, hchapters⟩ := run_away (p := p) (s := initial path) (by simp [initial]) hlist
  have hidle := idle_of_run_theme (coherent_initial path) rfl hlist hs
  -- The page leaves nothing open, and neither chapters nor locks: the two states agree on all that
  -- decides how a list is read.
  have hsame : SameList s (ofDraft (view s.work)) :=
    ⟨.ofIdle hidle rfl (hname s.work).symm (hcover s.work).symm (hrating s.work).symm
      (by rw [hchapters]; rfl) (by rw [hchapters]; rfl), hchapters⟩
  refine ⟨s, hs, fun list => ?_⟩
  rw [run_append_of_run list hs]
  exact (hsame.run list).records_eq

/-- The page adds no chapter, loses none and locks none. -/
theorem listReads_draft
    (hlist : page.OnTags fun name attributes =>
      anyHolds (lightNovel o).chapters.container name attributes = false) :
    ListReads id (lightNovel o) p path page ∧
      ListReads WorkDraft.nameCoverAndRating (lightNovel o) p path page :=
  ⟨listReads_of_view id (fun _ => rfl) (fun _ => rfl) (fun _ => rfl) hlist,
    listReads_of_view .nameCoverAndRating (fun _ => rfl) (fun _ => rfl) (fun _ => rfl) hlist⟩

private def listedSite : Grammar := .lightNovel {
  id := "t"
  sourceName := "T"
  site := "https://e.com/"
  chapterListRequest := some {} }

private def listedPolicy : Policy where
  now := ⟨⟨2024, 1, 10⟩, 0⟩

private def introducedPage : Forest :=
  .element "h1" (.ofList [("class", "entry-title")]) (.text "Name" .nil)
    (.element "div" (.ofList [("class", "spe")])
      (.element "div" (.ofList [("class", "genxed")])
        (.element "a" ∅ (.text "Drama" .nil) .nil) .nil)
      (.element "div" (.ofList [("itemprop", "description")]) (.text "Prose" .nil) .nil))

theorem listReads_introducedPage :
    ListReads id listedSite listedPolicy "" introducedPage ∧
      ListReads WorkDraft.nameCoverAndRating listedSite listedPolicy "" introducedPage :=
  listReads_draft (by decide)

private def ratedPage : Forest :=
  .element "span" (.ofList [("itemprop", "ratingValue"), ("content", "4.5")]) .nil .nil

private def ratedList : List Event := [
  .opened "div" (.ofList [("itemprop", "ratingValue")]),
  .opened "div" (.ofList [("class", "eplister")]), .opened "ul" ∅, .opened "li" ∅,
  .opened "a" (.ofList [("href", "https://e.com/c1/")]), .closed "a", .closed "li", .closed "ul",
  .closed "div", .closed "div"]

/-- Name and cover do not suffice: a page without a rating would read that of the list. -/
theorem not_listReads_ratedPage :
    ¬ListReads WorkDraft.nameAndCover listedSite listedPolicy "" ratedPage := by
  rintro ⟨s, hs, hlist⟩
  have hrated : (initial "").run listedSite listedPolicy ratedPage.events =
      .ok { work := { rating := readRating? "4.5" }, seen := 2 } := rfl
  have hbehind : records? ((initial "").run listedSite listedPolicy
      (ratedPage.events ++ ratedList)) = .ok [{ path := "c1/" }] := rfl
  have halone : records? ((ofDraft s.work.nameAndCover).run listedSite listedPolicy ratedList) =
      .ok [] := by
    rw [Except.ok.inj (hs.symm.trans hrated)]
    rfl
  have hequal := hbehind.symm.trans ((hlist ratedList).trans halone)
  cases hequal

end State

end Feuilleton
