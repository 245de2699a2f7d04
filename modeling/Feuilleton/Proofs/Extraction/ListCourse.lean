import Feuilleton.Proofs.Extraction.Course

/-!
# The chapters of a course

The chapter list of a state is read and written only while the list is being read. States on the
same course that have the same chapter list at one point have it at every later point.
-/

namespace Feuilleton.State

variable {g : Grammar} {p : Policy} {s t : State} {name content : String}
  {attributes : Attributes}

/-! ## Where the chapter list changes -/

theorem chapters_captureCover : (s.captureCover g name attributes).chapters = s.chapters := by
  unfold captureCover
  split <;> rfl

theorem chapters_enterRating : (s.enterRating name attributes).chapters = s.chapters := by
  unfold enterRating
  split <;> rfl

/-- Outside of all parts only the container of the list changes it. -/
theorem chapters_openIdle : (s.openIdle g name attributes).chapters =
    if partOf? g name attributes = some .chapters then (s.enterChapters g name).chapters
    else s.chapters := by
  unfold openIdle partOf?
  split
  · rfl
  split
  · rfl
  cases anyHolds g.info.container name attributes with
  | true => rfl
  | false =>
      simp only [Bool.false_eq_true, ↓reduceIte, Bool.false_or]
      split
      · rfl
      split
      · rfl
      split
      · rfl
      split
      · exact chapters_enterRating
      · rfl

theorem chapters_openChapters (name : String) (attributes : Attributes)
    (h : s.chapters = t.chapters) :
    (s.openChapters g name attributes).chapters = (t.openChapters g name attributes).chapters := by
  unfold openChapters openItem
  rw [h]
  split
  · split
    · rfl
    · exact h
  · split
    · rfl
    · split
      · rfl
      · exact h

theorem chapters_stepOpened (name : String) (attributes : Attributes) :
    (s.stepOpened g name attributes).chapters = match s.mode with
    | .chapters => (s.openChapters g name attributes).chapters
    | .idle =>
        if partOf? g name attributes = some .chapters then (s.enterChapters g name).chapters
        else s.chapters
    | _ => s.chapters := by
  have hcover : (s.captureCover g name attributes).chapters = s.chapters := chapters_captureCover
  have hmode : (s.captureCover g name attributes).mode = s.mode := mode_captureCover
  have henter : ((s.captureCover g name attributes).enterChapters g name).chapters =
      (s.enterChapters g name).chapters := by
    simp only [enterChapters, hcover]
  have hopen := chapters_openChapters (g := g) name attributes hcover
  rw [← hcover, ← hmode, ← henter, ← hopen]
  unfold stepOpened
  generalize s.captureCover g name attributes = c
  dsimp only
  cases c.mode with
  | idle => exact chapters_openIdle
  | title => rfl
  | rating => rfl
  | genres =>
      dsimp only [openGenres]
      split <;> rfl
  | summary =>
      dsimp only [openSummary]
      split <;> rfl
  | info =>
      dsimp only [openInfo]
      split <;> rfl
  | chapters => rfl

theorem chapters_stepText (content : String) (hm : s.mode ≠ .chapters) :
    ∃ t, s.stepText g content = .ok t ∧ t.chapters = s.chapters := by
  unfold stepText
  split
  · exact ⟨_, rfl, rfl⟩
  · exact ⟨_, rfl, rfl⟩
  · exact ⟨_, rfl, rfl⟩
  · refine ⟨_, rfl, ?_⟩
    unfold textGenres
    split <;> rfl
  · refine ⟨_, rfl, ?_⟩
    unfold textSummary
    split <;> rfl
  · refine ⟨_, rfl, ?_⟩
    unfold textInfo
    split <;> rfl
  · contradiction

theorem chapters_stepClosed (hm : s.mode ≠ .chapters) :
    (s.stepClosed g p name).chapters = s.chapters := by
  unfold stepClosed
  split
  · rfl
  · unfold closeTitle
    split <;> rfl
  · unfold closeRating
    split <;> rfl
  · unfold closeGenres
    split
    · split <;> rfl
    · rfl
  · unfold closeSummary
    split
    · rfl
    split
    · rfl
    split <;> rfl
  · unfold closeInfo
    split
    · rfl
    split <;> rfl
  · contradiction

theorem partOf?_ne_chapters (h : anyHolds g.chapters.container name attributes = false) :
    partOf? g name attributes ≠ some .chapters := by
  unfold partOf?
  split
  · simp
  split
  · simp
  split
  · simp
  · simp [h]

theorem mode_stepOpened_ne_chapters (hm : s.mode ≠ .chapters)
    (hlist : anyHolds g.chapters.container name attributes = false) :
    (s.stepOpened g name attributes).mode ≠ .chapters := by
  by_cases hidle : s.mode = .idle
  · have hpart := part?_stepOpened (g := g) name attributes hidle
    intro hmode
    rw [hmode] at hpart
    exact partOf?_ne_chapters hlist hpart.symm
  · rw [mode_stepOpened_of_reading hidle]
    exact hm

/-- Away from the chapter list no event fails, and the list stays as it is. -/
theorem step_away {event : Event} (hm : s.mode ≠ .chapters)
    (hlist : ∀ name attributes, event = .opened name attributes →
      anyHolds g.chapters.container name attributes = false) :
    ∃ t, s.step g p event = .ok t ∧ t.mode ≠ .chapters ∧ t.chapters = s.chapters := by
  cases event with
  | opened name attributes =>
      have htag := hlist name attributes rfl
      refine ⟨_, rfl, mode_stepOpened_ne_chapters (s := s.count) hm htag, ?_⟩
      rw [chapters_stepOpened]
      split
      · contradiction
      · rw [if_neg (partOf?_ne_chapters htag)]
        rfl
      · rfl
  | text content =>
      obtain ⟨t, ht, hchapters⟩ := chapters_stepText (g := g) (s := s.count) content hm
      refine ⟨t, ht, ?_, hchapters⟩
      rw [mode_stepText ht]
      exact hm
  | closed name =>
      exact ⟨_, rfl, (stays_stepClosed (s := s.count) name).mode_ne hm (by simp),
        chapters_stepClosed (s := s.count) hm⟩

theorem run_away {events : List Event} (hm : s.mode ≠ .chapters)
    (hlist : ∀ name attributes, .opened name attributes ∈ events →
      anyHolds g.chapters.container name attributes = false) :
    ∃ t, s.run g p events = .ok t ∧ t.mode ≠ .chapters ∧ t.chapters = s.chapters := by
  induction events generalizing s with
  | nil => exact ⟨s, rfl, hm, rfl⟩
  | cons event events ih =>
      obtain ⟨m, hstep, hmode, hchapters⟩ := step_away (p := p) hm
        fun name attributes hevent => hlist name attributes (hevent ▸ List.mem_cons_self)
      obtain ⟨t, hrun, htmode, htchapters⟩ := ih hmode
        fun name attributes hmem => hlist name attributes (List.mem_cons_of_mem event hmem)
      exact ⟨t, (run_cons_of_step events hstep).trans hrun, htmode, htchapters.trans hchapters⟩

/-! ## Two runs -/

structure SameList (s t : State) : Prop extends SameCourse s t where
  chapters : s.chapters = t.chapters

namespace SameList

theorem textChapters (h : SameList s t) :
    Alike SameList (s.textChapters g content) (t.textChapters g content) := by
  unfold State.textChapters
  rw [← h.chapters, ← h.name]
  split
  · rename_i draft cell _ _
    cases cellText g s.work.name content s.chapters draft cell with
    | error tooLong => exact .error tooLong
    | ok c =>
        exact .ok { h with draft := rfl, cell := rfl, list := fun _ => rfl, chapters := rfl }
  · exact .ok h

theorem closeChapters (h : s.chapters = t.chapters) :
    (s.closeChapters g p name).chapters = (t.closeChapters g p name).chapters := by
  unfold State.closeChapters
  rw [h]
  split
  · split
    · rfl
    split
    · rfl
    · exact h
  · split <;> exact h

theorem stepOpened (h : SameList s t) :
    SameList (s.stepOpened g name attributes) (t.stepOpened g name attributes) := by
  refine ⟨h.toSameCourse.stepOpened, ?_⟩
  rw [chapters_stepOpened, chapters_stepOpened, ← h.mode]
  split
  · exact chapters_openChapters name attributes h.chapters
  · simp only [enterChapters, h.chapters]
  · exact h.chapters

theorem stepText (h : SameList s t) :
    Alike SameList (s.stepText g content) (t.stepText g content) := by
  by_cases hm : s.mode = .chapters
  · unfold State.stepText
    rw [← h.mode, hm]
    exact h.textChapters
  · obtain ⟨s', hs, hsc⟩ := chapters_stepText (g := g) content hm
    obtain ⟨t', ht, htc⟩ := chapters_stepText (g := g) content (h.mode ▸ hm)
    have hcourse : Alike SameCourse (s.stepText g content) (t.stepText g content) :=
      h.toSameCourse.stepText
    rw [hs, ht] at hcourse ⊢
    cases hcourse with
    | ok hsame => exact .ok ⟨hsame, by rw [hsc, htc, h.chapters]⟩

theorem stepClosed (h : SameList s t) :
    SameList (s.stepClosed g p name) (t.stepClosed g p name) := by
  refine ⟨h.toSameCourse.stepClosed, ?_⟩
  by_cases hm : s.mode = .chapters
  · unfold State.stepClosed
    rw [← h.mode, hm]
    exact closeChapters h.chapters
  · rw [chapters_stepClosed hm, chapters_stepClosed (h.mode ▸ hm), h.chapters]

theorem step (event : Event) (h : SameList s t) :
    Alike SameList (s.step g p event) (t.step g p event) := by
  have hcount : SameList s.count t.count := { h with }
  cases event with
  | opened name attributes => exact .ok hcount.stepOpened
  | text content => exact hcount.stepText
  | closed name => exact .ok hcount.stepClosed

theorem run (events : List Event) (h : SameList s t) :
    Alike SameList (s.run g p events) (t.run g p events) :=
  Alike.run step events h

end SameList

end Feuilleton.State
