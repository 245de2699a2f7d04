import Feuilleton.Proofs.Extraction.Coherence
import Feuilleton.Proofs.Extraction.ListCourse
import Feuilleton.Proofs.Extraction.Overlong
import Feuilleton.Proofs.Extraction.ThemeList

/-!
# Inside of an item

While an item of the chapter list is open, its cells are read text by text. The number of its
chapter and the two lock flags follow from these readings alone, whatever else stands in the item,
and the end of the item turns them into a chapter.
-/

namespace Feuilleton

/-- A text with the cell in which it is read. -/
structure Reading where
  cell : Cell
  content : String
  deriving DecidableEq, Repr

/-- What the cells of an item decide. -/
structure Tally where
  number : Option Nat
  paid : Bool
  lockMarkerSeen : Bool
  deriving DecidableEq, Repr

namespace Tally

/-- The digits of a title count for want of others, and a number without the glyph frees the item
only if a glyph was seen. -/
def after (glyph : String) (tally : Tally) : Reading → Tally
  | ⟨.number, content⟩ =>
      let marked := Text.occursIn glyph content
      { number := (trailingValue? content).or tally.number
        paid := if marked then true else if tally.lockMarkerSeen then false else tally.paid
        lockMarkerSeen := tally.lockMarkerSeen || marked }
  | ⟨.title, content⟩ => { tally with
      number := State.numberBehindTitle tally.number (trailingValue? content) }
  | ⟨.date, _⟩ => tally
  | ⟨.price, content⟩ => { tally with paid := !isFree content }

def afterAll (glyph : String) (tally : Tally) (readings : List Reading) : Tally :=
  readings.foldl (after glyph) tally

theorem afterAll_cons (glyph : String) (tally : Tally) (reading : Reading)
    (readings : List Reading) :
    tally.afterAll glyph (reading :: readings) =
      (tally.after glyph reading).afterAll glyph readings := rfl

theorem afterAll_append (glyph : String) (tally : Tally) (first rest : List Reading) :
    tally.afterAll glyph (first ++ rest) = (tally.afterAll glyph first).afterAll glyph rest :=
  List.foldl_append

/-- A part of the tally that only the texts of one cell change is decided by those texts. -/
theorem afterAll_of_filter {α : Type} {glyph : String} {keep : Reading → Bool} {cell : Cell}
    (part : Tally → α) (act : α → String → α)
    (hother : ∀ tally reading, keep reading = false →
      part (tally.after glyph reading) = part tally)
    (hcell : ∀ tally content, part (tally.after glyph ⟨cell, content⟩) = act (part tally) content)
    {readings : List Reading} {contents : List String}
    (h : readings.filter keep = contents.map (⟨cell, ·⟩)) (tally : Tally) :
    part (tally.afterAll glyph readings) = contents.foldl act (part tally) := by
  induction readings generalizing tally contents with
  | nil =>
      obtain rfl := List.map_eq_nil_iff.1 h.symm
      rfl
  | cons reading readings ih =>
      rw [afterAll_cons]
      by_cases hkeep : keep reading = true
      · rw [List.filter_cons_of_pos hkeep] at h
        obtain ⟨content, rest, rfl, rfl, hrest⟩ := List.map_eq_cons_iff.1 h.symm
        rw [ih hrest.symm, hcell, List.foldl_cons]
      · rw [List.filter_cons_of_neg hkeep] at h
        rw [ih h, hother tally reading (Bool.not_eq_true _ ▸ hkeep)]

end Tally

def ChapterState.tally (draft : ChapterDraft) (c : ChapterState) : Tally :=
  ⟨draft.number, c.paid, c.lockMarkerSeen⟩

namespace State

variable {g : Grammar} {p : Policy} {s t c : State} {draft draft' item : ChapterDraft}
  {name content tag workName : String} {attributes : Attributes} {event : Event}
  {events : List Event}

/-! ## Readings -/

def reading? (s : State) : Event → Option Reading
  | .text content =>
      if s.chapters.draft.isSome then s.chapters.activeCell.map (⟨·, content⟩) else none
  | .opened _ _ | .closed _ => none

/-- The readings of a run, up to the event at which it fails if it does. -/
def readings (g : Grammar) (p : Policy) : State → List Event → List Reading
  | _, [] => []
  | s, event :: events =>
      (s.reading? event).toList ++ match s.step g p event with
        | .ok t => readings g p t events
        | .error _ => []

theorem readings_cons_of_step (events : List Event) (h : s.step g p event = .ok t) :
    s.readings g p (event :: events) = (s.reading? event).toList ++ t.readings g p events := by
  rw [readings, h]

/-- The run of the events from one state to the other goes on within one item. -/
inductive InItem (g : Grammar) (p : Policy) : State → List Event → State → Prop
  | nil {s : State} : s.chapters.draft.isSome → InItem g p s [] s
  | cons {s m t : State} {event : Event} {events : List Event} :
      s.chapters.draft.isSome → s.step g p event = .ok m → InItem g p m events t →
      InItem g p s (event :: events) t

theorem InItem.run (h : InItem g p s events t) : s.run g p events = .ok t := by
  induction h with
  | nil => rfl
  | cons _ hstep _ ih => exact (run_cons_of_step _ hstep).trans ih

theorem InItem.first (h : InItem g p s events t) : s.chapters.draft.isSome := by
  cases h with
  | nil hdraft => exact hdraft
  | cons hdraft _ _ => exact hdraft

/-! ## Texts of cells -/

theorem takeNumber_eq_of_ok (h : takeNumber content draft = .ok draft') :
    draft' = { draft with number := (trailingValue? content).or draft.number } := by
  by_cases hfits : (trailingDigits content).length ≤ Text.maxDigits
  · rw [takeNumber_eq hfits] at h
    exact (Except.ok.inj h).symm
  · have hlong : EndsOverlong content := endsOverlong_iff.2 (Nat.lt_of_not_le hfits)
    rw [takeNumber_eq_error_iff.2 (trailingNumber?_eq_error_iff.2 ⟨hlong, rfl⟩)] at h
    cases h

/-- From `d` to `d'` the item of `draft` was read on and had these readings. -/
structure ReadsOn (glyph : String) (draft : ChapterDraft) (d d' : ChapterState)
    (readings : List Reading) : Prop where
  item : ∃ draft', d'.draft = some draft' ∧ draft'.lockedByClass = draft.lockedByClass ∧
    d'.tally draft' = (d.tally draft).afterAll glyph readings
  records : d'.records = d.records

theorem ReadsOn.refl {glyph : String} {d : ChapterState} (hd : d.draft = some draft) :
    ReadsOn glyph draft d d [] :=
  ⟨⟨draft, hd, rfl, rfl⟩, rfl⟩

theorem readsOn_cellText {d d' : ChapterState} {cell : Cell} (hd : d.draft = some draft)
    (h : cellText g workName content d draft cell = .ok d') :
    ReadsOn g.chapters.lockGlyph draft d d' [⟨cell, content⟩] := by
  cases cell with
  | number =>
      obtain ⟨taken, htaken, hd'⟩ := exists_of_bind_eq_ok h
      cases hd'
      obtain rfl := takeNumber_eq_of_ok htaken
      refine ⟨⟨_, rfl, rfl, ?_⟩, rfl⟩
      simp only [ChapterState.tally, Tally.afterAll, List.foldl_cons, List.foldl_nil, Tally.after]
  | title =>
      simp only [cellText, titleText] at h
      split at h
      · rename_i hnone
        obtain ⟨taken, htaken, hd'⟩ := exists_of_bind_eq_ok h
        cases hd'
        obtain rfl := takeNumber_eq_of_ok htaken
        refine ⟨⟨_, rfl, rfl, ?_⟩, rfl⟩
        simp [ChapterState.tally, Tally.afterAll, Tally.after, numberBehindTitle, hnone]
      · rename_i hsome
        cases h
        refine ⟨⟨_, rfl, rfl, ?_⟩, rfl⟩
        simp [ChapterState.tally, Tally.afterAll, Tally.after, numberBehindTitle, hsome]
  | date =>
      cases h
      exact ⟨⟨_, rfl, rfl, by simp [ChapterState.tally, Tally.afterAll, Tally.after]⟩, rfl⟩
  | price =>
      cases h
      exact ⟨⟨draft, hd, rfl, by simp [ChapterState.tally, Tally.afterAll, Tally.after]⟩, rfl⟩

/-! ## Steps -/

theorem readsOn_opened (hm : s.mode = .chapters) (hdraft : s.chapters.draft = some draft) :
    ReadsOn g.chapters.lockGlyph draft s.chapters (s.stepOpened g name attributes).chapters [] := by
  have hopened : (s.stepOpened g name attributes).chapters =
      (s.openChapters g name attributes).chapters := by
    rw [chapters_stepOpened, hm]
  rw [hopened]
  simp only [openChapters, hdraft]
  split
  · exact ⟨⟨_, rfl, rfl, rfl⟩, rfl⟩
  · split
    · exact ⟨⟨draft, rfl, rfl, rfl⟩, rfl⟩
    · exact .refl hdraft

theorem readsOn_text (hm : s.mode = .chapters) (hdraft : s.chapters.draft = some draft)
    (h : s.stepText g content = .ok t) :
    ReadsOn g.chapters.lockGlyph draft s.chapters t.chapters
      (s.reading? (.text content)).toList := by
  simp only [stepText, hm, textChapters, hdraft] at h
  simp only [reading?, hdraft, Option.isSome_some, ↓reduceIte]
  cases hcell : s.chapters.activeCell with
  | none =>
      rw [hcell] at h
      cases h
      exact .refl hdraft
  | some cell =>
      rw [hcell] at h
      obtain ⟨d, hd, rfl⟩ := exists_of_map_eq_ok h
      exact readsOn_cellText hdraft hd

/-- A close tag ends the cell that is being read; only where none is can it end the item. -/
theorem cases_of_closed (name : String) (hm : s.mode = .chapters)
    (hdraft : s.chapters.draft = some draft) :
    (s.stepClosed g p name).chapters = { s.chapters with activeCell := none } ∨
      (s.stepClosed g p name).chapters = finishChapter g p draft s.chapters := by
  simp only [stepClosed, hm, closeChapters, hdraft]
  split
  · exact .inl rfl
  · rename_i hcell
    split
    · exact .inr rfl
    · left
      rw [Option.not_isSome_iff_eq_none] at hcell
      rw [← hcell, ← hdraft]

/-- A step inside of an item reads it on or ends it. -/
theorem cases_of_step (hs : Coherent p s) (hdraft : s.chapters.draft = some draft)
    (h : s.step g p event = .ok t) :
    ReadsOn g.chapters.lockGlyph draft s.chapters t.chapters (s.reading? event).toList ∨
      t.chapters = finishChapter g p draft s.chapters := by
  have hm : s.count.mode = .chapters := hs.draft (by simp [hdraft])
  have hcounted : s.count.chapters.draft = some draft := hdraft
  cases event with
  | opened name attributes =>
      cases h
      exact .inl (readsOn_opened hm hcounted)
  | text content => exact .inl (readsOn_text (s := s.count) hm hcounted h)
  | closed name =>
      cases h
      rcases cases_of_closed (g := g) (p := p) name hm hcounted with hread | hended
      · left
        rw [hread]
        exact ⟨⟨draft, hdraft, rfl, rfl⟩, rfl⟩
      · exact .inr hended

/-! ## Runs -/

/-- What is read inside of an item decides its tally. -/
theorem InItem.readsOn (hin : InItem g p s events t) (hs : Coherent p s)
    (hdraft : s.chapters.draft = some draft) :
    ReadsOn g.chapters.lockGlyph draft s.chapters t.chapters (s.readings g p events) := by
  induction hin generalizing draft with
  | nil _ => exact .refl hdraft
  | cons _ hstep hrest ih =>
      rcases cases_of_step hs hdraft hstep with hread | hended
      · obtain ⟨⟨draft₁, hdraft₁, hclass₁, htally₁⟩, hrecords₁⟩ := hread
        obtain ⟨⟨draft₂, hdraft₂, hclass₂, htally₂⟩, hrecords₂⟩ := ih (hs.step hstep) hdraft₁
        refine ⟨⟨draft₂, hdraft₂, hclass₂.trans hclass₁, ?_⟩, hrecords₂.trans hrecords₁⟩
        rw [htally₂, htally₁, readings_cons_of_step _ hstep, Tally.afterAll_append]
      · have hopen := hrest.first
        rw [hended, finishChapter_draft] at hopen
        contradiction

/-! ## The end of an item -/

/-- The step from `s` to `t` ends the item, as a locked chapter or as a free one. -/
structure EndsItem (g : Grammar) (p : Policy) (s t : State) (item : ChapterDraft)
    (locked : Bool) : Prop where
  draft : s.chapters.draft = some item
  locks : s.chapters.locks item = locked
  records : t.chapters.records = s.chapters.records ++
    if locked && p.hideLocked then [] else (item.chapter? g locked).toList
  hidden : t.chapters.hidden = s.chapters.hidden + if locked && p.hideLocked then 1 else 0

theorem endsItem_of_finished (hdraft : s.chapters.draft = some item)
    (h : t.chapters = finishChapter g p item s.chapters) :
    EndsItem g p s t item (s.chapters.locks item) := by
  by_cases hshown : s.chapters.locks item = false ∨ p.hideLocked = false
  · have hvisible : (s.chapters.locks item && p.hideLocked) = false := by
      rcases hshown with hshown | hshown <;> simp [hshown]
    refine ⟨hdraft, rfl, ?_, ?_⟩
    · rw [h, finishChapter_of_shown hshown, hvisible]
      rfl
    · rw [h, finishChapter_of_shown hshown, hvisible]
      rfl
  · rw [not_or, Bool.not_eq_false, Bool.not_eq_false] at hshown
    refine ⟨hdraft, rfl, ?_, ?_⟩
    · simp [h, finishChapter_of_hidden hshown.1 hshown.2, hshown]
    · simp [h, finishChapter_of_hidden hshown.1 hshown.2, hshown]

theorem endsItem_of_step (hs : Coherent p s) (hdraft : s.chapters.draft = some item)
    (h : s.step g p event = .ok t) (ht : t.chapters.draft = none) :
    EndsItem g p s t item (s.chapters.locks item) := by
  rcases cases_of_step hs hdraft h with hread | hended
  · obtain ⟨⟨draft', hdraft', -⟩, -⟩ := hread
    cases ht.symm.trans hdraft'
  · exact endsItem_of_finished hdraft hended

end State

end Feuilleton
