import Feuilleton.Proofs.Extraction.Chapters
import Feuilleton.Proofs.Extraction.Run

/-!
# Coherent states

The parts of a state support each other: what belongs to one part of the page is at rest while
another part is being read. Every reachable state is coherent.
-/

namespace Feuilleton.State

variable {g : Grammar} {p : Policy} {s t : State} {name : String} {attributes : Attributes}

structure Coherent (p : Policy) (s : State) : Prop where
  depth_pos : 0 < s.summary.depth ↔ s.mode = .summary
  link : s.genres.readingTag.isSome → s.mode = .genres ∧ s.genres.fragments ≠ []
  draft : s.chapters.draft.isSome → s.mode = .chapters
  cell : s.chapters.activeCell.isSome → s.chapters.draft.isSome
  label : s.info.labelTag.isSome → s.info.readingLabel = true
  info : s.info.readingLabel = true ∨ s.info.activeField.isSome → s.mode = .info
  field : s.mode = .title ∨ s.mode = .rating → s.fieldEndTag.isSome
  unrated : s.mode = .rating → s.work.rating = none
  hidden : 0 < s.chapters.hidden → p.hideLocked = true
  unlocked : p.hideLocked = true → ∀ chapter ∈ s.chapters.records, chapter.locked = false

theorem coherent_initial (path : String) : Coherent p (initial path) := by
  constructor <;> simp [initial]

namespace Coherent

/-! ## Parts at rest -/

theorem depth_eq_zero (hs : Coherent p s) (hm : s.mode ≠ .summary) : s.summary.depth = 0 := by
  have := mt hs.depth_pos.1 hm
  omega

theorem readingTag_eq_none (hs : Coherent p s) (hm : s.mode ≠ .genres) :
    s.genres.readingTag = none := by
  cases h : s.genres.readingTag with
  | none => rfl
  | some tag => exact absurd (hs.link (by simp [h])).1 hm

theorem draft_eq_none (hs : Coherent p s) (hm : s.mode ≠ .chapters) :
    s.chapters.draft = none := by
  cases h : s.chapters.draft with
  | none => rfl
  | some draft => exact absurd (hs.draft (by simp [h])) hm

theorem activeCell_eq_none (hs : Coherent p s) (h : s.chapters.draft = none) :
    s.chapters.activeCell = none := by
  cases hcell : s.chapters.activeCell with
  | none => rfl
  | some cell =>
      have := hs.cell (by simp [hcell])
      rw [h] at this
      contradiction

theorem readingLabel_eq_false (hs : Coherent p s) (hm : s.mode ≠ .info) :
    s.info.readingLabel = false := by
  cases h : s.info.readingLabel with
  | false => rfl
  | true => exact absurd (hs.info (.inl h)) hm

theorem activeField_eq_none (hs : Coherent p s) (hm : s.mode ≠ .info) :
    s.info.activeField = none := by
  cases h : s.info.activeField with
  | none => rfl
  | some field => exact absurd (hs.info (.inr (by simp [h]))) hm

theorem labelTag_eq_none (hs : Coherent p s) (h : s.info.readingLabel = false) :
    s.info.labelTag = none := by
  cases hl : s.info.labelTag with
  | none => rfl
  | some tag =>
      have := hs.label (by simp [hl])
      rw [h] at this
      contradiction

end Coherent

structure AtRest (s : State) : Prop where
  depth : s.summary.depth = 0
  link : s.genres.readingTag = none
  label : s.info.readingLabel = false
  field : s.info.activeField = none
  draft : s.chapters.draft = none

/-- Only the part that is being read has to be looked at. -/
theorem Coherent.atRest_of (hs : Coherent p s) (hsummary : s.mode ≠ .summary)
    (hlink : s.mode = .genres → s.genres.readingTag = none)
    (hinfo : s.mode = .info → s.info.readingLabel = false ∧ s.info.activeField = none)
    (hdraft : s.mode = .chapters → s.chapters.draft = none) : AtRest s where
  depth := hs.depth_eq_zero hsummary
  link := by
    by_cases hm : s.mode = .genres
    · exact hlink hm
    · exact hs.readingTag_eq_none hm
  label := by
    by_cases hm : s.mode = .info
    · exact (hinfo hm).1
    · exact hs.readingLabel_eq_false hm
  field := by
    by_cases hm : s.mode = .info
    · exact (hinfo hm).2
    · exact hs.activeField_eq_none hm
  draft := by
    by_cases hm : s.mode = .chapters
    · exact hdraft hm
    · exact hs.draft_eq_none hm

theorem Coherent.atRest (hs : Coherent p s)
    (hm : s.mode = .idle ∨ s.mode = .title ∨ s.mode = .rating) : AtRest s := by
  rcases hm with hm | hm | hm <;>
    exact hs.atRest_of (by simp [hm]) (by simp [hm]) (by simp [hm]) (by simp [hm])

/-- A state at rest may turn to any mode but the summary, which needs a depth. -/
theorem Coherent.enter {mode : Mode} (hs : Coherent p s) (hr : AtRest s)
    (hmode : mode ≠ .summary)
    (hfield : mode = .title ∨ mode = .rating → s.fieldEndTag.isSome)
    (hrating : mode = .rating → s.work.rating = none) : Coherent p (s.enter mode) :=
  { hs with
    depth_pos := by simp [State.enter, hr.depth, hmode]
    link := by simp [State.enter, hr.link]
    draft := by simp [State.enter, hr.draft]
    info := by simp [State.enter, hr.label, hr.field]
    field := hfield
    unrated := hrating }

/-! ## Cover and idle mode -/

theorem coherent_captureCover (hs : Coherent p s) :
    Coherent p (s.captureCover g name attributes) := by
  unfold captureCover
  split
  · exact hs
  · exact { hs with }

theorem coherent_enterSummary (hs : Coherent p s) (hr : AtRest s) :
    Coherent p (s.enterSummary name) :=
  { hs with
    depth_pos := by simp [enterSummary]
    link := by simp [enterSummary, hr.link]
    draft := by simp [enterSummary, hr.draft]
    info := by simp [enterSummary, hr.label, hr.field]
    field := by simp [enterSummary]
    unrated := by simp [enterSummary] }

theorem coherent_enterField {mode : Mode} (hs : Coherent p s) (hr : AtRest s)
    (hmode : mode ≠ .summary) (hrating : mode = .rating → s.work.rating = none) :
    Coherent p (s.enterField mode name) := by
  have hs' : Coherent p { s with fieldEndTag := some name, fieldText := "" } :=
    { hs with field := by simp }
  exact hs'.enter { hr with } hmode (by simp) hrating

theorem coherent_enterRating (hs : Coherent p s) (hm : s.mode = .idle)
    (hrating : s.work.rating = none) : Coherent p (s.enterRating name attributes) := by
  unfold enterRating
  split
  · exact { hs with unrated := by simp [hm] }
  · exact coherent_enterField hs (hs.atRest (.inl hm)) (by simp) fun _ => hrating

theorem coherent_openIdle (hs : Coherent p s) (hm : s.mode = .idle) :
    Coherent p (s.openIdle g name attributes) := by
  have hr := hs.atRest (.inl hm)
  unfold openIdle
  split
  · have hs' : Coherent p { s with genres := { s.genres with readingTag := none } } :=
      { hs with link := by simp }
    exact hs'.enter { hr with link := rfl } (by simp) (by simp) (by simp)
  split
  · exact coherent_enterSummary hs hr
  split
  · have hs' : Coherent p { s with info := { endTag := name } } :=
      { hs with label := by simp, info := by simp }
    exact hs'.enter { hr with label := rfl, field := rfl } (by simp) (by simp) (by simp)
  split
  · -- The status container begins with its label already being read.
    exact { hs with
      depth_pos := by simp [hr.depth]
      link := by simp [hr.link]
      draft := by simp [hr.draft]
      label := by simp
      info := by simp
      field := by simp
      unrated := by simp }
  split
  · have hs' : Coherent p (s.enterChapters g name |>.enter .idle) :=
      { hs with
        depth_pos := by simp [State.enter, enterChapters, hr.depth]
        link := by simp [State.enter, enterChapters, hr.link]
        draft := by simp [State.enter, enterChapters, hr.draft]
        cell := by simp [State.enter, enterChapters]
        info := by simp [State.enter, enterChapters, hr.label, hr.field]
        field := by simp [State.enter]
        unrated := by simp [State.enter] }
    exact hs'.enter { hr with } (by simp) (by simp) (by simp)
  split
  · exact coherent_enterField hs hr (by simp) (by simp)
  split
  · rename_i hrating
    refine coherent_enterRating hs hm ?_
    simp only [Bool.and_eq_true, Option.isNone_iff_eq_none] at hrating
    exact hrating.1
  · exact hs

/-! ## Title and rating -/

theorem coherent_closeTitle (hs : Coherent p s) (hm : s.mode = .title) :
    Coherent p (s.closeTitle name) := by
  unfold closeTitle
  split
  · have hidle : Coherent p (s.enter .idle) :=
      hs.enter (hs.atRest (.inr (.inl hm))) (by simp) (by simp) (by simp)
    exact { hidle with }
  · exact hs

theorem coherent_closeRating (hs : Coherent p s) (hm : s.mode = .rating) :
    Coherent p (s.closeRating name) := by
  unfold closeRating
  split
  · have hidle : Coherent p (s.enter .idle) :=
      hs.enter (hs.atRest (.inr (.inr hm))) (by simp) (by simp) (by simp)
    exact { hidle with unrated := by simp }
  · exact hs

/-! ## Genres -/

theorem coherent_openGenres (hs : Coherent p s) (hm : s.mode = .genres) :
    Coherent p (s.openGenres g name attributes) := by
  unfold openGenres
  split
  · exact { hs with link := fun _ => ⟨hm, by simp⟩ }
  · exact hs

theorem appendToLast_ne_nil {content : String} {fragments : List String} (h : fragments ≠ []) :
    appendToLast content fragments ≠ [] := by
  cases fragments with
  | nil => contradiction
  | cons first rest => cases rest <;> simp [appendToLast]

theorem coherent_textGenres {content : String} (hs : Coherent p s) :
    Coherent p (s.textGenres content) := by
  unfold textGenres
  split
  · exact { hs with link := fun h => ⟨(hs.link h).1, appendToLast_ne_nil (hs.link h).2⟩ }
  · exact hs

theorem coherent_closeGenres (hs : Coherent p s) (hm : s.mode = .genres) :
    Coherent p (s.closeGenres name) := by
  unfold closeGenres
  split
  · split
    · exact { hs with link := by simp }
    · exact hs
  · rename_i hlink
    have hr := hs.atRest_of (by simp [hm]) (fun _ => hlink) (by simp [hm]) (by simp [hm])
    exact hs.enter hr (by simp) (by simp) (by simp)

/-! ## Summary -/

theorem coherent_openSummary (hs : Coherent p s) (hm : s.mode = .summary) :
    Coherent p (s.openSummary g name) := by
  unfold openSummary
  split
  · exact { hs with depth_pos := by simp [hm] }
  · exact hs

theorem coherent_textSummary {content : String} (hs : Coherent p s) :
    Coherent p (s.textSummary content) := by
  unfold textSummary
  split
  · exact { hs with }
  · exact hs

theorem coherent_closeSummary (hs : Coherent p s) (hm : s.mode = .summary) :
    Coherent p (s.closeSummary g name) := by
  unfold closeSummary
  split
  · exact { hs with }
  split
  · exact { hs with }
  split
  · by_cases hdepth : s.summary.depth - 1 = 0
    · have hlink := hs.readingTag_eq_none (by simp [hm])
      have hlabel := hs.readingLabel_eq_false (by simp [hm])
      have hfield := hs.activeField_eq_none (by simp [hm])
      have hdraft := hs.draft_eq_none (by simp [hm])
      simp only [hdepth, ↓reduceIte]
      exact { hs with
        depth_pos := by simp
        link := by simp [hlink]
        draft := by simp [hdraft]
        info := by simp [hlabel, hfield]
        field := by simp
        unrated := by simp }
    · simp only [hdepth, ↓reduceIte]
      exact { hs with depth_pos := by simp [hm]; omega }
  · exact hs

/-! ## Author, artist and status -/

theorem coherent_openInfo (hs : Coherent p s) (hm : s.mode = .info) :
    Coherent p (s.openInfo g name attributes) := by
  unfold openInfo
  split
  · exact { hs with label := by simp, info := fun _ => hm }
  · exact hs

theorem coherent_textInfo {content : String} (hs : Coherent p s) (hm : s.mode = .info) :
    Coherent p (s.textInfo content) := by
  unfold textInfo
  split
  · exact { hs with info := fun _ => hm, unrated := by simp [hm] }
  · exact hs

theorem coherent_closeInfo (hs : Coherent p s) (hm : s.mode = .info) :
    Coherent p (s.closeInfo name) := by
  unfold closeInfo
  split
  · exact { hs with label := by simp, info := fun _ => hm }
  split
  · rename_i hend
    have hlabel : s.info.labelTag = none := by
      cases hreading : s.info.readingLabel with
      | false => exact hs.labelTag_eq_none hreading
      | true =>
          simp [hreading] at hend
          exact hend.2
    have hs' : Coherent p { s with info := { s.info with
        readingLabel := false, activeField := none } } :=
      { hs with label := by simp [hlabel], info := by simp }
    have hr := hs'.atRest_of (by simp [hm]) (by simp [hm]) (fun _ => ⟨rfl, rfl⟩) (by simp [hm])
    have hidle := hs'.enter hr (by simp : Mode.idle ≠ .summary) (by simp) (by simp)
    exact { hidle with unrated := by simp }
  · exact hs

/-! ## Chapters -/

theorem coherent_openChapters (hs : Coherent p s) (hm : s.mode = .chapters) :
    Coherent p (s.openChapters g name attributes) := by
  unfold openChapters
  split
  · unfold openItem
    split
    · exact { hs with draft := fun _ => hm, cell := by simp }
    · exact hs
  · rename_i draft hdraft
    split
    · exact { hs with draft := fun _ => hm, cell := by simp }
    split
    · exact { hs with cell := by simp [hdraft] }
    · exact hs

theorem coherent_textChapters {content : String} (hs : Coherent p s) (hm : s.mode = .chapters)
    (h : s.textChapters g content = .ok t) : Coherent p t := by
  obtain rfl | ⟨draft, draft', paid, seen, hdraft, -, rfl⟩ := textChapters_eq_ok h
  · exact hs
  · exact { hs with draft := fun _ => hm, cell := by simp }

theorem coherent_finishChapter {draft : ChapterDraft} (hs : Coherent p s) :
    Coherent p { s with chapters := finishChapter g p draft s.chapters } := by
  by_cases hshown : s.chapters.locks draft = false ∨ p.hideLocked = false
  · rw [finishChapter_of_shown hshown]
    refine { hs with draft := by simp, cell := by simp, unlocked := ?_ }
    intro hp chapter hmem
    rcases List.mem_append.1 hmem with hmem | hmem
    · exact hs.unlocked hp chapter hmem
    · rw [locked_of_chapter? (Option.mem_toList.1 hmem)]
      simpa [hp] using hshown
  · rw [not_or, Bool.not_eq_false, Bool.not_eq_false] at hshown
    rw [finishChapter_of_hidden hshown.1 hshown.2]
    exact { hs with draft := by simp, cell := by simp, hidden := fun _ => hshown.2 }

theorem coherent_closeChapters (hs : Coherent p s) (hm : s.mode = .chapters) :
    Coherent p (s.closeChapters g p name) := by
  unfold closeChapters
  split
  · split
    · exact { hs with cell := by simp }
    split
    · exact coherent_finishChapter hs
    · exact hs
  · rename_i hdraft
    split
    · have hr := hs.atRest_of (by simp [hm]) (by simp [hm]) (by simp [hm]) (fun _ => hdraft)
      exact hs.enter hr (by simp) (by simp) (by simp)
    · exact hs

/-! ## Steps and runs -/

theorem coherent_stepOpened (hs : Coherent p s) :
    Coherent p (s.stepOpened g name attributes) := by
  have hcover : Coherent p (s.captureCover g name attributes) := coherent_captureCover hs
  unfold stepOpened
  generalize s.captureCover g name attributes = c at hcover ⊢
  dsimp only
  cases hm : c.mode with
  | idle => exact coherent_openIdle hcover hm
  | title => exact hcover
  | rating => exact hcover
  | genres => exact coherent_openGenres hcover hm
  | summary => exact coherent_openSummary hcover hm
  | info => exact coherent_openInfo hcover hm
  | chapters => exact coherent_openChapters hcover hm

theorem coherent_stepText {content : String} (hs : Coherent p s)
    (h : s.stepText g content = .ok t) : Coherent p t := by
  unfold stepText at h
  cases hm : s.mode with
  | idle => rw [hm] at h; cases h; exact hs
  | title => rw [hm] at h; cases h; exact { hs with }
  | rating => rw [hm] at h; cases h; exact { hs with }
  | genres => rw [hm] at h; cases h; exact coherent_textGenres hs
  | summary => rw [hm] at h; cases h; exact coherent_textSummary hs
  | info => rw [hm] at h; cases h; exact coherent_textInfo hs hm
  | chapters => rw [hm] at h; exact coherent_textChapters hs hm h

theorem coherent_stepClosed (hs : Coherent p s) : Coherent p (s.stepClosed g p name) := by
  unfold stepClosed
  cases hm : s.mode with
  | idle => exact hs
  | title => exact coherent_closeTitle hs hm
  | rating => exact coherent_closeRating hs hm
  | genres => exact coherent_closeGenres hs hm
  | summary => exact coherent_closeSummary hs hm
  | info => exact coherent_closeInfo hs hm
  | chapters => exact coherent_closeChapters hs hm

theorem Coherent.step {event : Event} (hs : Coherent p s) (h : s.step g p event = .ok t) :
    Coherent p t := by
  have hcount : Coherent p s.count := { hs with }
  cases event with
  | opened name attributes => cases h; exact coherent_stepOpened hcount
  | text content => exact coherent_stepText hcount h
  | closed name => cases h; exact coherent_stepClosed hcount

theorem Coherent.run {events : List Event} (hs : Coherent p s)
    (h : s.run g p events = .ok t) : Coherent p t :=
  run_invariant Coherent.step hs h

theorem Reachable.coherent (hs : Reachable g p s) : Coherent p s := by
  induction hs with
  | initial path => exact coherent_initial path
  | step _ hstep ih => exact ih.step hstep

/-- What every page leaves of the parts of a state, wherever it is cut off. The depth of the summary
is a natural number, and it is counted down only where it is positive. -/
theorem parts_of_reachable (hs : Reachable g p s) :
    (1 ≤ s.summary.depth ↔ s.mode = .summary) ∧
    (s.genres.readingTag.isSome → s.mode = .genres ∧ s.genres.fragments ≠ []) ∧
    (s.chapters.draft.isSome → s.mode = .chapters) ∧
    (s.chapters.activeCell.isSome → s.chapters.draft.isSome) ∧
    (s.info.labelTag.isSome → s.info.readingLabel = true) ∧
    (s.info.readingLabel = true ∨ s.info.activeField.isSome → s.mode = .info) ∧
    (s.mode = .title ∨ s.mode = .rating → s.fieldEndTag.isSome) ∧
    (s.mode = .rating → s.work.rating = none) ∧
    (0 < s.chapters.hidden → p.hideLocked = true) ∧
    (p.hideLocked = true → ∀ chapter ∈ s.chapters.records, chapter.locked = false) := by
  have hc := hs.coherent
  exact ⟨hc.depth_pos, hc.link, hc.draft, hc.cell, hc.label, hc.info, hc.field, hc.unrated,
    hc.hidden, hc.unlocked⟩

private def plainList : Grammar where
  id := ""
  sourceName := ""
  site := ""
  chapters := { container := [.tagIs "ol"], number := [.tagIs "b"], price := [.tagIs "i"] }

private def hidingPolicy : Policy where
  hideLocked := true
  now := ⟨⟨2024, 1, 10⟩, 0⟩

/-- Inside the second item of a list whose first item was hidden. -/
private def secondItem : State where
  mode := .chapters
  chapters := { activeCell := some .number, draft := some {}, paid := true, hidden := 1 }
  seen := 8

theorem parts_of_reachable_secondItem :
    Reachable plainList hidingPolicy secondItem ∧ secondItem.mode = .chapters ∧
      secondItem.chapters.draft.isSome ∧ hidingPolicy.hideLocked = true := by
  have hrun : (initial "").run plainList hidingPolicy [
      .opened "ol" ∅, .opened "li" ∅, .opened "i" ∅, .text "5 Coins", .closed "i", .closed "li",
      .opened "li" ∅, .opened "b" ∅] = .ok secondItem := rfl
  have hs := Reachable.of_run hrun
  obtain ⟨-, -, hdraft, hcell, -, -, -, -, hhidden, -⟩ := parts_of_reachable hs
  exact ⟨hs, hdraft (hcell rfl), hcell rfl, hhidden (by decide)⟩

end Feuilleton.State
