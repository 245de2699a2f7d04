import Feuilleton.Proofs.Extraction.Parts

/-!
# The course of an extraction

Most of a state is only written, or belongs to a part of the page that is not being read. What
decides how further events are taken is little: two states that agree on it take the same course
through every page.
-/

namespace Feuilleton.State

variable {g : Grammar} {p : Policy} {s t : State} {name content : String}
  {attributes : Attributes}

/-- The states agree on everything that decides which events count for what. Whether there is a
cover or a rating matters, but not which. -/
structure SameCourse (s t : State) : Prop where
  mode : s.mode = t.mode
  name : s.work.name = t.work.name
  cover : s.work.cover.isSome = t.work.cover.isSome
  rating : s.work.rating.isNone = t.work.rating.isNone
  draft : s.chapters.draft = t.chapters.draft
  cell : s.chapters.activeCell = t.chapters.activeCell
  field : s.mode = .title ∨ s.mode = .rating →
    s.fieldEndTag = t.fieldEndTag ∧ s.fieldText = t.fieldText
  link : s.mode = .genres → s.genres.readingTag = t.genres.readingTag
  summary : s.mode = .summary → s.summary = t.summary
  label : s.mode = .info → s.info.readingLabel = t.info.readingLabel ∧
    s.info.labelTag = t.info.labelTag ∧ s.info.endTag = t.info.endTag
  list : s.mode = .chapters → s.chapters.endTag = t.chapters.endTag

namespace SameCourse

/-- While nothing is being read, no part of a page has to agree. -/
theorem ofIdle (hs : s.mode = .idle) (ht : t.mode = .idle) (hname : s.work.name = t.work.name)
    (hcover : s.work.cover.isSome = t.work.cover.isSome)
    (hrating : s.work.rating.isNone = t.work.rating.isNone)
    (hdraft : s.chapters.draft = t.chapters.draft)
    (hcell : s.chapters.activeCell = t.chapters.activeCell) : SameCourse s t where
  mode := hs.trans ht.symm
  name := hname
  cover := hcover
  rating := hrating
  draft := hdraft
  cell := hcell
  field := by simp [hs]
  link := by simp [hs]
  summary := by simp [hs]
  label := by simp [hs]
  list := by simp [hs]

/-! ## Open tags -/

theorem captureCover (h : SameCourse s t) :
    SameCourse (s.captureCover g name attributes) (t.captureCover g name attributes) := by
  unfold State.captureCover
  rw [h.cover]
  split
  · exact h
  · exact { h with name := by simp [h.name], cover := rfl }

theorem enterField {mode : Mode} (h : SameCourse s t) (hmode : mode = .title ∨ mode = .rating) :
    SameCourse (s.enterField mode name) (t.enterField mode name) := by
  rcases hmode with rfl | rfl <;>
    exact { h with
      mode := rfl
      field := fun _ => ⟨rfl, rfl⟩
      link := by simp [State.enterField]
      summary := by simp [State.enterField]
      label := by simp [State.enterField]
      list := by simp [State.enterField] }

theorem enterRating (h : SameCourse s t) (hm : s.mode = .idle) :
    SameCourse (s.enterRating name attributes) (t.enterRating name attributes) := by
  unfold State.enterRating
  split
  · exact { h with rating := rfl, field := by simp [hm] }
  · exact h.enterField (.inr rfl)

/-- What is entered is set anew, so that it agrees whatever was left of it before. -/
theorem openIdle (h : SameCourse s t) (hm : s.mode = .idle) :
    SameCourse (s.openIdle g name attributes) (t.openIdle g name attributes) := by
  unfold State.openIdle
  rw [h.name, h.rating]
  split
  · exact { h with
      mode := rfl, field := by simp, link := fun _ => rfl, summary := by simp, label := by simp
      list := by simp }
  split
  · exact { h with
      mode := rfl, field := by simp [enterSummary], link := by simp [enterSummary]
      summary := fun _ => rfl, label := by simp [enterSummary], list := by simp [enterSummary] }
  split
  · exact { h with
      mode := rfl, field := by simp, link := by simp, summary := by simp
      label := fun _ => ⟨rfl, rfl, rfl⟩, list := by simp }
  split
  · exact { h with
      mode := rfl, field := by simp, link := by simp, summary := by simp
      label := fun _ => ⟨rfl, rfl, rfl⟩, list := by simp }
  split
  · exact { h with
      mode := rfl, cell := rfl, field := by simp [enterChapters], link := by simp [enterChapters]
      summary := by simp [enterChapters], label := by simp [enterChapters], list := fun _ => rfl }
  split
  · exact h.enterField (.inl rfl)
  split
  · exact h.enterRating hm
  · exact h

theorem openGenres (h : SameCourse s t) (hm : s.mode = .genres) :
    SameCourse (s.openGenres g name attributes) (t.openGenres g name attributes) := by
  unfold State.openGenres
  rw [h.link hm]
  split
  · exact { h with link := fun _ => rfl }
  · exact h

theorem openSummary (h : SameCourse s t) (hm : s.mode = .summary) :
    SameCourse (s.openSummary g name) (t.openSummary g name) := by
  unfold State.openSummary isBoundary
  rw [h.summary hm]
  split
  · exact { h with summary := fun _ => rfl }
  · exact h

theorem openInfo (h : SameCourse s t) (hm : s.mode = .info) :
    SameCourse (s.openInfo g name attributes) (t.openInfo g name attributes) := by
  unfold State.openInfo
  split
  · exact { h with label := fun _ => ⟨rfl, rfl, (h.label hm).2.2⟩ }
  · exact h

theorem openChapters (h : SameCourse s t) :
    SameCourse (s.openChapters g name attributes) (t.openChapters g name attributes) := by
  unfold State.openChapters openItem
  rw [h.draft]
  split
  · split
    · exact { h with draft := rfl, cell := rfl }
    · exact h
  · split
    · exact { h with draft := rfl }
    · split
      · exact { h with cell := rfl }
      · exact h

theorem stepOpened (h : SameCourse s t) :
    SameCourse (s.stepOpened g name attributes) (t.stepOpened g name attributes) := by
  have hcover : SameCourse (s.captureCover g name attributes) (t.captureCover g name attributes) :=
    h.captureCover
  unfold State.stepOpened
  generalize s.captureCover g name attributes = first at hcover
  generalize t.captureCover g name attributes = second at hcover
  dsimp only
  rw [← hcover.mode]
  cases hm : first.mode with
  | idle => exact hcover.openIdle hm
  | title => exact hcover
  | rating => exact hcover
  | genres => exact hcover.openGenres hm
  | summary => exact hcover.openSummary hm
  | info => exact hcover.openInfo hm
  | chapters => exact hcover.openChapters

/-! ## Texts -/

theorem textField (h : SameCourse s t) (hm : s.mode = .title ∨ s.mode = .rating) :
    SameCourse (s.textField content) (t.textField content) := by
  obtain ⟨htag, htext⟩ := h.field hm
  exact { h with field := fun _ => ⟨htag, by simp [State.textField, htext]⟩ }

theorem textGenres (h : SameCourse s t) (hm : s.mode = .genres) :
    SameCourse (s.textGenres content) (t.textGenres content) := by
  unfold State.textGenres
  rw [h.link hm]
  split
  · exact { h with }
  · exact h

theorem textSummary (h : SameCourse s t) (hm : s.mode = .summary) :
    SameCourse (s.textSummary content) (t.textSummary content) := by
  unfold State.textSummary
  rw [h.summary hm]
  split
  · exact { h with }
  · exact h

theorem textInfo (h : SameCourse s t) (hm : s.mode = .info) :
    SameCourse (s.textInfo content) (t.textInfo content) := by
  obtain ⟨hreading, hlabel, hend⟩ := h.label hm
  have hassign (work : WorkDraft) (field : Option InfoField) :
      (assignInfo content work field).name = work.name ∧
        (assignInfo content work field).cover = work.cover ∧
        (assignInfo content work field).rating = work.rating := by
    rcases field with _ | _ | _ | _ <;> exact ⟨rfl, rfl, rfl⟩
  unfold State.textInfo
  rw [hreading]
  split
  · exact { h with
      name := by simp only [hassign, h.name]
      cover := by simp only [hassign, h.cover]
      rating := by simp only [hassign, h.rating]
      label := fun _ => ⟨hreading, hlabel, hend⟩ }
  · exact h

theorem cellText_draft (workName content : String) {c c' : ChapterState} (draft : ChapterDraft)
    (cell : Cell) (hc : c.draft = c'.draft) :
    (cellText g workName content c draft cell).map (·.draft) =
      (cellText g workName content c' draft cell).map (·.draft) := by
  cases cell with
  | number =>
      simp only [cellText, numberText]
      cases takeNumber content draft <;> rfl
  | title =>
      simp only [cellText, titleText]
      split
      · cases takeNumber content { draft with name := stripWorkName content workName } <;> rfl
      · rfl
  | date => rfl
  | price => exact congrArg Except.ok hc

theorem textChapters (h : SameCourse s t) :
    Alike SameCourse (s.textChapters g content) (t.textChapters g content) := by
  unfold State.textChapters
  rw [← h.draft, ← h.cell, ← h.name]
  cases hdraft : s.chapters.draft with
  | none => exact .ok h
  | some draft =>
      cases hcell : s.chapters.activeCell with
      | none => exact .ok h
      | some cell =>
          dsimp only
          obtain ⟨tooLong, hs, ht⟩ | ⟨c, c', hs, ht, hsame⟩ :=
            cases_of_map_eq (cellText_draft (g := g) s.work.name content draft cell h.draft)
          · rw [hs, ht]
            exact .error tooLong
          · obtain ⟨draft₁, -, hc⟩ := cellText_eq_ok hdraft hs
            obtain ⟨draft₂, -, hc'⟩ := cellText_eq_ok (h.draft.symm.trans hdraft) ht
            rw [hs, ht]
            refine .ok { h with draft := hsame, cell := ?_, list := ?_ }
            · rw [hc, hc']
              exact h.cell
            · intro hm
              rw [hc, hc']
              exact h.list hm

theorem stepText (h : SameCourse s t) :
    Alike SameCourse (s.stepText g content) (t.stepText g content) := by
  unfold State.stepText
  rw [← h.mode]
  cases hm : s.mode with
  | idle => exact .ok h
  | title => exact .ok (h.textField (.inl hm))
  | rating => exact .ok (h.textField (.inr hm))
  | genres => exact .ok (h.textGenres hm)
  | summary => exact .ok (h.textSummary hm)
  | info => exact .ok (h.textInfo hm)
  | chapters => exact h.textChapters

/-! ## Close tags -/

theorem closeTitle (h : SameCourse s t) (hm : s.mode = .title) :
    SameCourse (s.closeTitle name) (t.closeTitle name) := by
  obtain ⟨htag, htext⟩ := h.field (.inl hm)
  unfold State.closeTitle
  rw [htag, htext]
  split
  · exact ofIdle rfl rfl rfl h.cover h.rating h.draft h.cell
  · exact h

theorem closeRating (h : SameCourse s t) (hm : s.mode = .rating) :
    SameCourse (s.closeRating name) (t.closeRating name) := by
  obtain ⟨htag, htext⟩ := h.field (.inr hm)
  unfold State.closeRating
  rw [htag, htext]
  split
  · exact ofIdle rfl rfl h.name h.cover rfl h.draft h.cell
  · exact h

theorem closeGenres (h : SameCourse s t) (hm : s.mode = .genres) :
    SameCourse (s.closeGenres name) (t.closeGenres name) := by
  unfold State.closeGenres
  rw [h.link hm]
  split
  · split
    · exact { h with link := fun _ => rfl }
    · exact h
  · exact ofIdle rfl rfl h.name h.cover h.rating h.draft h.cell

theorem closeSummary (h : SameCourse s t) (hm : s.mode = .summary) :
    SameCourse (s.closeSummary g name) (t.closeSummary g name) := by
  have hsummary := h.summary hm
  unfold State.closeSummary isBoundary
  rw [hsummary]
  split
  · exact { h with }
  split
  · exact { h with }
  split
  · by_cases hdepth : t.summary.depth - 1 = 0
    · simp only [hdepth, ↓reduceIte]
      exact ofIdle rfl rfl h.name h.cover h.rating h.draft h.cell
    · simp only [hdepth, ↓reduceIte]
      exact { h with summary := fun _ => rfl }
  · exact h

theorem closeInfo (h : SameCourse s t) (hm : s.mode = .info) :
    SameCourse (s.closeInfo name) (t.closeInfo name) := by
  obtain ⟨hreading, hlabel, hend⟩ := h.label hm
  unfold State.closeInfo
  rw [hreading, hlabel, hend]
  split
  · exact { h with label := fun _ => ⟨rfl, rfl, hend⟩ }
  split
  · exact ofIdle rfl rfl h.name h.cover h.rating h.draft h.cell
  · exact h

theorem closeChapters (h : SameCourse s t) (hm : s.mode = .chapters) :
    SameCourse (s.closeChapters g p name) (t.closeChapters g p name) := by
  unfold State.closeChapters
  rw [h.draft, h.cell, h.list hm]
  split
  · split
    · exact { h with cell := rfl }
    split
    · exact { h with
        draft := by simp
        cell := by simp
        list := fun hm => by simpa using h.list hm }
    · exact h
  · split
    · exact ofIdle rfl rfl h.name h.cover h.rating h.draft h.cell
    · exact h

theorem stepClosed (h : SameCourse s t) :
    SameCourse (s.stepClosed g p name) (t.stepClosed g p name) := by
  unfold State.stepClosed
  rw [← h.mode]
  cases hm : s.mode with
  | idle => exact h
  | title => exact h.closeTitle hm
  | rating => exact h.closeRating hm
  | genres => exact h.closeGenres hm
  | summary => exact h.closeSummary hm
  | info => exact h.closeInfo hm
  | chapters => exact h.closeChapters hm

/-! ## Runs -/

theorem step (event : Event) (h : SameCourse s t) :
    Alike SameCourse (s.step g p event) (t.step g p event) := by
  have hcount : SameCourse s.count t.count := { h with }
  cases event with
  | opened name attributes => exact .ok hcount.stepOpened
  | text content => exact hcount.stepText
  | closed name => exact .ok hcount.stepClosed

theorem run (events : List Event) (h : SameCourse s t) :
    Alike SameCourse (s.run g p events) (t.run g p events) :=
  Alike.run step events h

end SameCourse

end Feuilleton.State
