import Feuilleton.Proofs.Extraction.Coherence
import Feuilleton.Proofs.Extraction.HiddenOutcome
import Feuilleton.Proofs.Extraction.ListCourse
import Feuilleton.Proofs.Text.Trimmed

/-!
# Well-formed works

Whatever a page holds and wherever it ends, the work that is extracted from it is well formed. The
facts about a chapter come from two places: path, name and number are settled when its item ends,
the date and the counted number when the whole list is known.
-/

namespace Feuilleton

variable {g : Grammar} {p : Policy}

/-! ## Works -/

def Binary64.IsNonnegative : Binary64 → Prop
  | .nan => False
  | .infinite negative => negative = false
  | .finite negative significand _ => negative = false ∨ significand = 0

/-- What is settled when the item of the chapter ends. -/
structure Chapter.Kept (g : Grammar) (chapter : Chapter) : Prop where
  path_nonempty : chapter.path.isEmpty = false
  path : Text.IsTrimmed chapter.path
  number : 0 ≤ chapter.number
  lockedName : chapter.locked = true →
    ∃ name, Text.IsTrimmed name ∧ chapter.name = g.chapters.lockGlyph ++ " " ++ name
  unlockedName : chapter.locked = false → Text.IsTrimmed chapter.name

structure Chapter.WellFormed (g : Grammar) (chapter : Chapter) : Prop
    extends Chapter.Kept g chapter where
  releaseTime : ∀ time, chapter.releaseTime = some time → Text.isBlankText time = false

structure Work.WellFormed (g : Grammar) (p : Policy) (work : Work) : Prop where
  name : Text.IsTrimmed work.name
  cover : work.cover.isEmpty = false
  summary : Text.IsTrimmed work.summary
  author : Text.IsTrimmed work.author
  artist : Text.IsTrimmed work.artist
  genres : ∀ genre ∈ work.genres, Text.IsTrimmed genre ∧ Text.isBlankText genre = false
  rating : ∀ rating, work.rating = some rating → rating.IsNonnegative
  chapters : ∀ chapter ∈ work.chapters, chapter.WellFormed g
  hidden : p.hideLocked = true → ∀ chapter ∈ work.chapters, chapter.locked = false
  positions : g.numbering = .position →
    ∀ (i : Nat) chapter, work.chapters[i]? = some chapter → chapter.number = (i : Int) + 1

/-! ## Ratings -/

theorem Binary64.isNonnegative_ite {c : Prop} [Decidable c] (significand : Nat)
    (exponent : Int) :
    (if c then infinite false else finite false significand exponent).IsNonnegative := by
  split
  · rfl
  · exact .inl rfl

theorem Binary64.isNonnegative_ofRatio (num den : Nat) :
    (Binary64.ofRatio false num den).IsNonnegative := by
  unfold Binary64.ofRatio
  split
  · exact .inl rfl
  · exact isNonnegative_ite _ _

theorem Binary64.isNonnegative_ofDecimal (digits : Nat) (power : Int) :
    (Binary64.ofDecimal false digits power).IsNonnegative := by
  unfold Binary64.ofDecimal
  dsimp only
  split
  · exact .inl rfl
  split
  · rfl
  split
  · exact isNonnegative_ofRatio _ _
  · exact isNonnegative_ofRatio _ _

theorem isNonnegative_of_readRating? {text : String} {rating : Binary64}
    (h : readRating? text = some rating) : rating.IsNonnegative := by
  unfold readRating? at h
  split at h
  · cases h
  · cases h
    exact Binary64.isNonnegative_ofDecimal _ _

namespace State

variable {s t : State} {name content : String} {attributes : Attributes}

/-- The rating stays, or one is read from some text. -/
def Rates (s t : State) : Prop :=
  t.work.rating = s.work.rating ∨ ∃ text, t.work.rating = readRating? text

theorem rates_openIdle : Rates s (s.openIdle g name attributes) := by
  unfold openIdle
  split
  · exact .inl rfl
  split
  · exact .inl rfl
  split
  · exact .inl rfl
  split
  · exact .inl rfl
  split
  · exact .inl rfl
  split
  · exact .inl rfl
  split
  · unfold enterRating
    split
    · rename_i rating hrating
      exact .inr ⟨_, hrating.symm⟩
    · exact .inl rfl
  · exact .inl rfl

theorem rates_stepOpened : Rates s (s.stepOpened g name attributes) := by
  have hcover : (s.captureCover g name attributes).work.rating = s.work.rating := by
    unfold captureCover
    split <;> rfl
  rw [Rates, ← hcover]
  unfold stepOpened
  generalize s.captureCover g name attributes = c
  dsimp only
  split
  · exact rates_openIdle
  · unfold openGenres
    split <;> exact .inl rfl
  · unfold openSummary
    split <;> exact .inl rfl
  · unfold openInfo
    split <;> exact .inl rfl
  · unfold openChapters openItem
    split
    · split <;> exact .inl rfl
    · split
      · exact .inl rfl
      · split <;> exact .inl rfl
  · exact .inl rfl
  · exact .inl rfl

theorem rating_stepText (h : s.stepText g content = .ok t) : t.work.rating = s.work.rating := by
  unfold stepText at h
  split at h
  · cases h
    rfl
  · cases h
    rfl
  · cases h
    rfl
  · cases h
    unfold textGenres
    split <;> rfl
  · cases h
    unfold textSummary
    split <;> rfl
  · cases h
    unfold textInfo
    split
    · rcases s.info.activeField with _ | _ | _ | _ <;> rfl
    · rfl
  · obtain rfl | ⟨_, _, _, _, _, _, rfl⟩ := textChapters_eq_ok h <;> rfl

theorem rates_stepClosed : Rates s (s.stepClosed g p name) := by
  unfold stepClosed
  split
  · exact .inl rfl
  · unfold closeTitle
    split <;> exact .inl rfl
  · unfold closeRating
    split
    · exact .inr ⟨_, rfl⟩
    · exact .inl rfl
  · unfold closeGenres
    split
    · split <;> exact .inl rfl
    · exact .inl rfl
  · unfold closeSummary
    split
    · exact .inl rfl
    split
    · exact .inl rfl
    split <;> exact .inl rfl
  · unfold closeInfo
    split
    · exact .inl rfl
    split <;> exact .inl rfl
  · unfold closeChapters
    split
    · split
      · exact .inl rfl
      split <;> exact .inl rfl
    · split <;> exact .inl rfl

theorem rates_step {event : Event} (h : s.step g p event = .ok t) : Rates s t := by
  cases event with
  | opened name attributes => cases h; exact rates_stepOpened (s := s.count)
  | text content => exact .inl (rating_stepText (s := s.count) h)
  | closed name => cases h; exact rates_stepClosed (s := s.count)

theorem isNonnegative_of_run {path : String} {events : List Event} {rating : Binary64}
    (h : (initial path).run g p events = .ok s) (hrating : s.work.rating = some rating) :
    rating.IsNonnegative := by
  have hkeeps : ∀ {s t : State} {event : Event},
      (∀ rating, s.work.rating = some rating → rating.IsNonnegative) →
        s.step g p event = .ok t →
          ∀ rating, t.work.rating = some rating → rating.IsNonnegative := by
    intro s t event hs hstep rating hrating
    rcases rates_step hstep with hsame | ⟨text, hread⟩
    · exact hs rating (hsame.symm.trans hrating)
    · exact isNonnegative_of_readRating? (hread.symm.trans hrating)
  exact run_invariant hkeeps (by simp [initial]) h rating hrating

end State

/-! ## Items -/

theorem isTrimmed_stripWorkName (text workName : String) :
    Text.IsTrimmed (stripWorkName text workName) := by
  unfold stripWorkName
  split
  · split
    · exact Text.isTrimmed_trim _
    · exact Text.isTrimmed_trimList _
  · exact Text.isTrimmed_trim _

structure ChapterDraft.IsTrimmed (draft : ChapterDraft) : Prop where
  name : Text.IsTrimmed draft.name
  path : ∀ path, draft.path = some path → Text.IsTrimmed path

structure ChapterState.Tidy (g : Grammar) (c : ChapterState) : Prop where
  draft : ∀ draft, c.draft = some draft → draft.IsTrimmed
  records : ∀ chapter ∈ c.records, chapter.Kept g

namespace State

variable {s t : State} {name content : String} {attributes : Attributes}

theorem kept_of_chapter? {locked : Bool} {draft : ChapterDraft} {chapter : Chapter}
    (hdraft : draft.IsTrimmed) (h : draft.chapter? g locked = some chapter) : chapter.Kept g := by
  unfold ChapterDraft.chapter? at h
  split at h
  · cases h
  · rename_i hpath
    cases h
    exact {
      path_nonempty := by simpa using hpath
      path := by
        cases hlink : draft.path with
        | none => simp [hlink] at hpath
        | some path => exact hdraft.path path hlink
      number := by simp
      lockedName := fun hlocked => ⟨draft.name, hdraft.name, if_pos hlocked⟩
      unlockedName := fun hlocked => by
        have hshown : locked = false := hlocked
        simpa [hshown] using hdraft.name }

theorem tidy_openChapters (hs : s.chapters.Tidy g) :
    (s.openChapters g name attributes).chapters.Tidy g := by
  unfold openChapters openItem
  split
  · split
    · refine { hs with draft := ?_ }
      intro draft hdraft
      obtain rfl := Option.some.inj hdraft
      exact ⟨Text.isTrimmed_empty, by simp⟩
    · exact hs
  · rename_i draft hdraft
    split
    · refine { hs with draft := ?_ }
      intro linked hlinked
      obtain rfl := Option.some.inj hlinked
      refine ⟨(hs.draft draft hdraft).name, ?_⟩
      intro path hpath
      obtain rfl := Option.some.inj hpath
      exact Text.isTrimmed_trim _
    · split
      · exact { hs with }
      · exact hs

theorem isTrimmed_takeNumber {draft draft' : ChapterDraft} (hdraft : draft.IsTrimmed)
    (h : takeNumber content draft = .ok draft') : draft'.IsTrimmed := by
  rw [takeNumber_eq_ok h]
  exact { hdraft with }

theorem tidy_cellText {workName : String} {c c' : ChapterState} {draft : ChapterDraft}
    {cell : Cell} (hc : c.Tidy g) (hdraft : draft.IsTrimmed)
    (h : cellText g workName content c draft cell = .ok c') : c'.Tidy g := by
  have hwith (draft' : ChapterDraft) (hdraft' : draft'.IsTrimmed) :
      ChapterState.Tidy g { c with draft := some draft' } :=
    { hc with draft := fun _ heq => Option.some.inj heq ▸ hdraft' }
  cases cell with
  | number =>
      obtain ⟨taken, htaken, hc'⟩ := exists_of_bind_eq_ok h
      cases hc'
      exact { hwith taken (isTrimmed_takeNumber hdraft htaken) with }
  | title =>
      have hnamed : ChapterDraft.IsTrimmed { draft with name := stripWorkName content workName } :=
        { hdraft with name := isTrimmed_stripWorkName content workName }
      simp only [cellText, titleText] at h
      split at h
      · obtain ⟨taken, htaken, hc'⟩ := exists_of_bind_eq_ok h
        cases hc'
        exact hwith taken (isTrimmed_takeNumber hnamed htaken)
      · cases h
        exact hwith _ hnamed
  | date =>
      cases h
      exact hwith _ { hdraft with }
  | price =>
      obtain rfl := Except.ok.inj h
      exact ⟨hc.draft, hc.records⟩

theorem tidy_textChapters (hs : s.chapters.Tidy g) (h : s.textChapters g content = .ok t) :
    t.chapters.Tidy g := by
  unfold textChapters at h
  split at h
  · rename_i draft cell hdraft hcell
    obtain ⟨c, hc, rfl⟩ := exists_of_map_eq_ok h
    exact tidy_cellText hs (hs.draft draft hdraft) hc
  · cases h
    exact hs

theorem tidy_finishChapter {draft : ChapterDraft} {c : ChapterState} (hc : c.Tidy g)
    (hdraft : draft.IsTrimmed) : (finishChapter g p draft c).Tidy g := by
  by_cases hshown : c.locks draft = false ∨ p.hideLocked = false
  · rw [finishChapter_of_shown hshown]
    refine ⟨by simp, ?_⟩
    intro chapter hmem
    rcases List.mem_append.1 hmem with hmem | hmem
    · exact hc.records chapter hmem
    · exact kept_of_chapter? hdraft (Option.mem_toList.1 hmem)
  · rw [not_or, Bool.not_eq_false, Bool.not_eq_false] at hshown
    rw [finishChapter_of_hidden hshown.1 hshown.2]
    exact ⟨by simp, hc.records⟩

theorem tidy_closeChapters (hs : s.chapters.Tidy g) :
    (s.closeChapters g p name).chapters.Tidy g := by
  unfold closeChapters
  split
  · rename_i draft hdraft
    split
    · exact { hs with }
    split
    · exact tidy_finishChapter hs (hs.draft draft hdraft)
    · exact hs
  · split <;> exact hs

theorem tidy_step {event : Event} (hs : s.chapters.Tidy g) (h : s.step g p event = .ok t) :
    t.chapters.Tidy g := by
  have hcount : s.count.chapters.Tidy g := hs
  cases event with
  | opened name attributes =>
      cases h
      rw [chapters_stepOpened]
      split
      · exact tidy_openChapters hcount
      · split
        · exact { hs with }
        · exact hs
      · exact hs
  | text content =>
      by_cases hm : s.count.mode = .chapters
      · simp only [step, stepText, hm] at h
        exact tidy_textChapters hcount h
      · obtain ⟨t', ht', hchapters⟩ := chapters_stepText (g := g) content hm
        cases ht'.symm.trans h
        rw [hchapters]
        exact hs
  | closed name =>
      cases h
      by_cases hm : s.count.mode = .chapters
      · simp only [stepClosed, hm]
        exact tidy_closeChapters hcount
      · rw [chapters_stepClosed hm]
        exact hs

theorem tidy_of_run {path : String} {events : List Event}
    (h : (initial path).run g p events = .ok s) : s.chapters.Tidy g := by
  have hinitial : (initial path).chapters.Tidy g := ⟨by simp [initial], by simp [initial]⟩
  exact @run_invariant g p (initial path) s (·.chapters.Tidy g) tidy_step events hinitial h

end State

/-! ## Dates -/

theorem Date.isBlankText_text (date : Date) : Text.isBlankText date.text = false := by
  have hmem : '-' ∈ date.text.toList := by simp [Date.text]
  exact Text.isBlankText_eq_false_of_mem hmem (by decide)

theorem DateParser.resolve_eq_ok {dates : DateParser} {raw text : String} {now : Moment}
    (h : dates.resolve raw now = .ok text) : text = raw ∨ ∃ date : Date, text = date.text := by
  unfold resolve at h
  split at h
  · cases h
    exact .inl rfl
  · split at h
    · cases h
      unfold relativeDate
      split
      · exact .inl rfl
      · split
        · exact .inr ⟨_, rfl⟩
        · exact .inl rfl
    · unfold written at h
      split at h
      · cases h
        exact .inr ⟨_, rfl⟩
      · cases h
        exact .inl rfl
      · cases h

namespace State

theorem isBlankText_of_releaseTime {dates : DateParser} {now : Moment} {raw? : Option String}
    {time : String}
    (h : releaseTime dates now raw? = .ok (some time)) : Text.isBlankText time = false := by
  unfold releaseTime at h
  split at h
  · cases h
  · rename_i raw
    dsimp only at h
    split at h
    · cases h
    · rename_i hraw
      obtain ⟨text, htext, htime⟩ := exists_of_map_eq_ok h
      cases htime
      obtain rfl | ⟨date, rfl⟩ := DateParser.resolve_eq_ok htext
      · exact (Text.isTrimmed_trim raw).isBlankText_eq_false (by simpa using hraw)
      · exact date.isBlankText_text

/-! ## Finished works -/

/-- Every chapter of a finished list is one of the list, with its date and its number settled. -/
theorem getElem?_settleChapters {numbering : Numbering} {dates : DateParser} {now : Moment}
    {position : Nat} {records chapters : List Chapter}
    (h : settleChapters numbering dates now position records = .ok chapters) {i : Nat}
    {chapter : Chapter} (hi : chapters[i]? = some chapter) :
    ∃ record ∈ records, ∃ time, releaseTime dates now record.releaseTime = .ok time ∧
      chapter = settled numbering (position + i) time record := by
  induction records generalizing position chapters i with
  | nil =>
      cases h
      simp at hi
  | cons record records ih =>
      obtain ⟨time, rest, htime, hrest, rfl⟩ := settleChapters_cons_eq_ok h
      cases i with
      | zero =>
          obtain rfl := Option.some.inj hi
          exact ⟨record, List.mem_cons_self, time, htime, rfl⟩
      | succ i =>
          obtain ⟨later, hmem, time, htime, rfl⟩ := ih hrest hi
          refine ⟨later, List.mem_cons_of_mem record hmem, time, htime, ?_⟩
          rw [Nat.add_right_comm, Nat.add_assoc]

theorem mem_readingOrder {chapters : List Chapter} {chapter : Chapter} :
    chapter ∈ readingOrder g chapters ↔ chapter ∈ chapters := by
  unfold readingOrder
  split
  · exact List.mem_reverse
  · exact Iff.rfl

theorem wellFormed_settled {numbering : Numbering} {dates : DateParser} {now : Moment}
    {position : Nat} {time : Option String} {record : Chapter} (hrecord : record.Kept g)
    (htime : releaseTime dates now record.releaseTime = .ok time) :
    (settled numbering position time record).WellFormed g where
  path_nonempty := hrecord.path_nonempty
  path := hrecord.path
  number := by
    cases numbering with
    | parsed => exact hrecord.number
    | position => exact Int.natCast_nonneg position
  lockedName := hrecord.lockedName
  unlockedName := hrecord.unlockedName
  releaseTime := fun text htext => by
    rw [show time = some text from htext] at htime
    exact isBlankText_of_releaseTime htime

theorem isEmpty_coverOrDefault (cover : Option String) :
    (coverOrDefault cover).isEmpty = false := by
  unfold coverOrDefault
  split
  · split
    · decide
    · rename_i hcover
      simpa using hcover
  · decide

theorem mem_settledGenres {fragments : List String} {genre : String}
    (h : genre ∈ settledGenres fragments) :
    Text.IsTrimmed genre ∧ Text.isBlankText genre = false := by
  unfold settledGenres at h
  obtain ⟨hmem, hgenre⟩ := List.mem_filter.1 h
  obtain ⟨fragment, -, rfl⟩ := List.mem_map.1 hmem
  have htrimmed := Text.isTrimmed_trim fragment
  exact ⟨htrimmed, htrimmed.isBlankText_eq_false (by simpa using hgenre)⟩

end State

open State

theorem wellFormed_of_extract {path : String} {events : List Event} {work : Work}
    (h : extract g p path events = .ok work) : work.WellFormed g p := by
  obtain ⟨s, hs, hfinish⟩ := exists_of_extract_eq_ok h
  obtain ⟨chapters, hchapters, rfl⟩ := exists_of_finish_eq_ok hfinish
  have htidy := tidy_of_run hs
  have hcoherent := (Reachable.of_run hs).coherent
  have hsettled : ∀ chapter ∈ chapters, ∃ record ∈ s.chapters.records, ∃ position time,
      releaseTime p.dates p.now record.releaseTime = .ok time ∧
      chapter = settled g.numbering position time record := by
    intro chapter hchapter
    obtain ⟨i, hi⟩ := List.mem_iff_getElem?.1 hchapter
    obtain ⟨record, hrecord, time, htime, heq⟩ := getElem?_settleChapters hchapters hi
    exact ⟨record, mem_readingOrder.1 hrecord, _, time, htime, heq⟩
  exact {
    name := Text.isTrimmed_trim _
    cover := isEmpty_coverOrDefault _
    summary := Text.isTrimmed_trim _
    author := Text.isTrimmed_trim _
    artist := Text.isTrimmed_trim _
    genres := fun genre hgenre => mem_settledGenres hgenre
    rating := fun rating hrating => isNonnegative_of_run hs hrating
    chapters := fun chapter hchapter => by
      obtain ⟨record, hrecord, position, time, htime, rfl⟩ := hsettled chapter hchapter
      exact wellFormed_settled (htidy.records record hrecord) htime
    hidden := fun hp chapter hchapter => by
      obtain ⟨record, hrecord, position, time, -, rfl⟩ := hsettled chapter hchapter
      exact hcoherent.unlocked hp record hrecord
    positions := fun hg i chapter hi => by
      obtain ⟨record, -, time, -, rfl⟩ := getElem?_settleChapters hchapters hi
      simp [settled, hg, Int.add_comm] }

private def tidySite : Grammar := .lightNovel {
  id := "t"
  sourceName := "T"
  site := "https://e.com/"
  reverseChapters := true
  numbering := .position }

private def tidyPolicy : Policy where
  now := ⟨⟨2024, 1, 10⟩, 0⟩

/-- A page that breaks off behind its second chapter, and in the middle of its only genre. -/
private def tidyPage : List Event := [
  .opened "h1" (.ofList [("class", "entry-title")]), .text " Name ", .closed "h1",
  .opened "div" (.ofList [("itemprop", "ratingValue"), ("content", "4,5")]), .closed "div",
  .opened "div" (.ofList [("class", "eplister")]), .opened "ul" ∅,
  .opened "li" ∅, .opened "a" (.ofList [("href", "https://e.com/c2/ ")]),
  .opened "div" (.ofList [("class", "epl-price")]), .text "5 Coins", .closed "div",
  .closed "a", .closed "li",
  .opened "li" ∅, .opened "a" (.ofList [("href", "https://e.com/c1/")]),
  .opened "div" (.ofList [("class", "epl-title")]), .text "Name  Start ", .closed "div",
  .opened "div" (.ofList [("class", "epl-date")]), .text " 3 days ago", .closed "div",
  .opened "div" (.ofList [("class", "epl-price")]), .text "Free", .closed "div",
  .closed "a", .closed "li", .closed "ul",
  .opened "div" (.ofList [("class", "genxed")]), .opened "a" ∅, .text " Drama"]

private def tidyWork : Work where
  name := "Name"
  genres := ["Drama"]
  rating := readRating? "4,5"
  chapters := [
    { path := "c1/", name := "Start", releaseTime := some "2024-01-07", number := 1 },
    { path := "c2/", name := "🔒 ", number := 2, locked := true }]

theorem wellFormed_tidyWork : tidyWork.WellFormed tidySite tidyPolicy := by
  have hextract : extract tidySite tidyPolicy "" tidyPage = .ok tidyWork := rfl
  exact wellFormed_of_extract hextract

end Feuilleton
