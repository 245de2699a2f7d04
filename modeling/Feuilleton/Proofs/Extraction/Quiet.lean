import Feuilleton.Proofs.Extraction.Chapters
import Feuilleton.Proofs.Extraction.Run
import Feuilleton.Proofs.Markup.Forest

/-!
# Quiet tags

A quiet tag begins no part of a page and names no field of the work. While no part of a page is
being read it changes nothing, and elsewhere it stays in the part that is being read.
-/

namespace Feuilleton

variable {g : Grammar} {p : Policy} {s t : State} {name content : String}
  {attributes : Attributes}

structure Quiet (g : Grammar) (name : String) (attributes : Attributes) : Prop where
  cover : anyHolds g.cover.image name attributes = false
  genres : anyHolds g.genres.container name attributes = false
  summary : anyHolds g.summary.container name attributes = false
  info : anyHolds g.info.container name attributes = false
  status : anyHolds g.info.statusContainer name attributes = false
  chapters : anyHolds g.chapters.container name attributes = false
  title : anyHolds g.title name attributes = false
  rating : anyHolds g.rating name attributes = false

instance : Decidable (Quiet g name attributes) :=
  decidable_of_iff
    (anyHolds g.cover.image name attributes = false ∧
      anyHolds g.genres.container name attributes = false ∧
      anyHolds g.summary.container name attributes = false ∧
      anyHolds g.info.container name attributes = false ∧
      anyHolds g.info.statusContainer name attributes = false ∧
      anyHolds g.chapters.container name attributes = false ∧
      anyHolds g.title name attributes = false ∧
      anyHolds g.rating name attributes = false)
    ⟨fun ⟨cover, genres, summary, info, status, chapters, title, rating⟩ =>
      ⟨cover, genres, summary, info, status, chapters, title, rating⟩,
    fun h => ⟨h.cover, h.genres, h.summary, h.info, h.status, h.chapters, h.title, h.rating⟩⟩

/-- Texts and close tags are quiet by themselves. -/
def Event.Quiet (g : Grammar) : Event → Prop
  | .opened name attributes => Feuilleton.Quiet g name attributes
  | _ => True

theorem Forest.OnTags.quiet {forest : Forest} (h : forest.OnTags (Feuilleton.Quiet g)) :
    ∀ event ∈ forest.events, event.Quiet g := by
  intro event hmem
  cases event with
  | opened name attributes => exact h name attributes hmem
  | text content => trivial
  | closed name => trivial

namespace State

theorem captureCover_of_not_image (h : anyHolds g.cover.image name attributes = false) :
    s.captureCover g name attributes = s := by
  simp [captureCover, h]

theorem openIdle_of_quiet (h : Quiet g name attributes) : s.openIdle g name attributes = s := by
  simp [openIdle, h.genres, h.summary, h.info, h.status, h.chapters, h.title, h.rating]

/-! ## Modes -/

theorem mode_openChapters : (s.openChapters g name attributes).mode = s.mode := by
  unfold openChapters openItem
  split
  · split <;> rfl
  · split
    · rfl
    · split <;> rfl

theorem mode_captureCover : (s.captureCover g name attributes).mode = s.mode := by
  unfold captureCover
  split <;> rfl

/-- While a part is being read, an open tag begins no other one. -/
theorem mode_stepOpened_of_reading (hm : s.mode ≠ .idle) :
    (s.stepOpened g name attributes).mode = s.mode := by
  have hcover : (s.captureCover g name attributes).mode = s.mode := mode_captureCover
  rw [← hcover] at hm ⊢
  unfold stepOpened
  generalize s.captureCover g name attributes = c at hm
  dsimp only
  split
  · contradiction
  · unfold openGenres
    split <;> rfl
  · unfold openSummary
    split <;> rfl
  · unfold openInfo
    split <;> rfl
  · exact mode_openChapters
  · rfl
  · rfl

theorem mode_stepOpened (h : Quiet g name attributes) :
    (s.stepOpened g name attributes).mode = s.mode := by
  by_cases hm : s.mode = .idle
  · unfold stepOpened
    rw [captureCover_of_not_image h.cover]
    dsimp only
    rw [hm, openIdle_of_quiet h, hm]
  · exact mode_stepOpened_of_reading hm

theorem mode_stepText (h : s.stepText g content = .ok t) : t.mode = s.mode := by
  unfold stepText at h
  split at h
  · cases h
    rfl
  · cases h
    rfl
  · cases h
    rfl
  · cases h
    unfold textGenres
    split <;> rfl
  · cases h
    unfold textSummary
    split <;> rfl
  · cases h
    unfold textInfo
    split <;> rfl
  · obtain rfl | ⟨_, _, _, _, _, _, rfl⟩ := textChapters_eq_ok h <;> rfl

/-- The same part of the page is being read, or none any more. -/
def Stays (s t : State) : Prop :=
  t.mode = s.mode ∨ t.mode = .idle

theorem Stays.mode_ne {mode : Mode} (h : Stays s t) (hs : s.mode ≠ mode) (hidle : mode ≠ .idle) :
    t.mode ≠ mode := by
  rcases h with hsame | hleft
  · rw [hsame]
    exact hs
  · rw [hleft]
    exact hidle.symm

theorem stays_closeGenres : Stays s (s.closeGenres name) := by
  unfold closeGenres
  split
  · split <;> exact .inl rfl
  · exact .inr rfl

theorem stays_closeSummary : Stays s (s.closeSummary g name) := by
  unfold closeSummary
  split
  · exact .inl rfl
  split
  · exact .inl rfl
  split
  · dsimp only
    split
    · exact .inr rfl
    · exact .inl rfl
  · exact .inl rfl

theorem stays_closeInfo : Stays s (s.closeInfo name) := by
  unfold closeInfo
  split
  · exact .inl rfl
  split
  · exact .inr rfl
  · exact .inl rfl

theorem stays_closeChapters : Stays s (s.closeChapters g p name) := by
  unfold closeChapters
  split
  · split
    · exact .inl rfl
    · split <;> exact .inl rfl
  · split
    · exact .inr rfl
    · exact .inl rfl

theorem stays_stepClosed (name : String) : Stays s (s.stepClosed g p name) := by
  unfold stepClosed
  split
  · exact .inl rfl
  · unfold closeTitle
    split
    · exact .inr rfl
    · exact .inl rfl
  · unfold closeRating
    split
    · exact .inr rfl
    · exact .inl rfl
  · exact stays_closeGenres
  · exact stays_closeSummary
  · exact stays_closeInfo
  · exact stays_closeChapters

theorem Stays.of_step {event : Event} (hquiet : event.Quiet g)
    (h : s.step g p event = .ok t) : Stays s t := by
  cases event with
  | opened name attributes =>
      cases h
      exact .inl (mode_stepOpened (s := s.count) hquiet)
  | text content => exact .inl (mode_stepText (s := s.count) h)
  | closed name =>
      cases h
      exact stays_stepClosed (s := s.count) name

end State

end Feuilleton
