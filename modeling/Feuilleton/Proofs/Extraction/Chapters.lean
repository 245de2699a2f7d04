import Feuilleton.Extraction.Step
import Feuilleton.Proofs.Success

/-!
# Items of the chapter list

What the text of a cell and the end of an item can change. A cell changes its draft and the two
lock flags; the end of an item adds one chapter at most.
-/

namespace Feuilleton

variable {g : Grammar} {p : Policy}

/-! ## Cells -/

namespace State

theorem takeNumber_eq_ok {content : String} {draft draft' : ChapterDraft}
    (h : takeNumber content draft = .ok draft') :
    draft' = { draft with number := draft'.number } := by
  obtain ⟨number?, -, rfl⟩ := exists_of_map_eq_ok h
  cases number? <;> rfl

/-- A cell keeps the tag of its item, and beside the draft it changes only the lock flags. -/
theorem cellText_eq_ok {workName content : String} {c c' : ChapterState} {draft : ChapterDraft}
    {cell : Cell} (hc : c.draft = some draft)
    (h : cellText g workName content c draft cell = .ok c') :
    ∃ draft' : ChapterDraft, draft'.itemTag = draft.itemTag ∧
      c' = { c with
        draft := some draft', paid := c'.paid, lockMarkerSeen := c'.lockMarkerSeen } := by
  cases cell with
  | number =>
      obtain ⟨taken, ht, hc'⟩ := exists_of_bind_eq_ok h
      cases hc'
      exact ⟨taken, by rw [takeNumber_eq_ok ht], rfl⟩
  | title =>
      simp only [cellText, titleText] at h
      split at h
      · obtain ⟨taken, ht, hc'⟩ := exists_of_bind_eq_ok h
        cases hc'
        exact ⟨taken, by rw [takeNumber_eq_ok ht], rfl⟩
      · cases h
        exact ⟨{ draft with name := stripWorkName content workName }, rfl, rfl⟩
  | date =>
      cases h
      exact ⟨{ draft with releaseTime := some content }, rfl, rfl⟩
  | price =>
      cases h
      exact ⟨draft, rfl, by rw [← hc]⟩

theorem textChapters_eq_ok {content : String} {s t : State}
    (h : s.textChapters g content = .ok t) :
    t = s ∨ ∃ draft draft' : ChapterDraft, ∃ paid seen : Bool,
      s.chapters.draft = some draft ∧ draft'.itemTag = draft.itemTag ∧
      t = { s with chapters := { s.chapters with
        draft := some draft', paid, lockMarkerSeen := seen } } := by
  unfold textChapters at h
  split at h
  · rename_i draft cell hdraft hcell
    obtain ⟨c, hc, rfl⟩ := exists_of_map_eq_ok h
    obtain ⟨draft', htag, heq⟩ := cellText_eq_ok hdraft hc
    exact .inr ⟨draft, draft', c.paid, c.lockMarkerSeen, hdraft, htag, by rw [heq]⟩
  · cases h
    exact .inl rfl

end State

/-! ## The end of an item -/

def ChapterState.locks (c : ChapterState) (draft : ChapterDraft) : Bool :=
  c.paid || draft.lockedByClass

/-- The chapter of a draft; none without a link. -/
def ChapterDraft.chapter? (g : Grammar) (locked : Bool) (draft : ChapterDraft) : Option Chapter :=
  if (draft.path.getD "").isEmpty then none
  else some {
    path := draft.path.getD ""
    name := if locked then g.chapters.lockGlyph ++ " " ++ draft.name else draft.name
    releaseTime := draft.releaseTime
    number := draft.number.getD 0
    locked }

namespace State

theorem locked_of_chapter? {locked : Bool} {draft : ChapterDraft} {chapter : Chapter}
    (h : draft.chapter? g locked = some chapter) : chapter.locked = locked := by
  unfold ChapterDraft.chapter? at h
  split at h
  · cases h
  · cases h
    rfl

section Finish

variable {draft : ChapterDraft} {c : ChapterState}

@[simp] theorem finishChapter_draft : (finishChapter g p draft c).draft = none := by
  simp only [finishChapter]
  split
  · rfl
  · split <;> rfl

@[simp] theorem finishChapter_activeCell : (finishChapter g p draft c).activeCell = none := by
  simp only [finishChapter]
  split
  · rfl
  · split <;> rfl

@[simp] theorem finishChapter_endTag : (finishChapter g p draft c).endTag = c.endTag := by
  simp only [finishChapter]
  split
  · rfl
  · split <;> rfl

theorem finishChapter_of_hidden
    (hlocked : c.locks draft = true) (hp : p.hideLocked = true) :
    finishChapter g p draft c =
      { c with draft := none, activeCell := none, hidden := c.hidden + 1 } := by
  unfold ChapterState.locks at hlocked
  simp [finishChapter, hlocked, hp]

theorem finishChapter_of_shown
    (h : c.locks draft = false ∨ p.hideLocked = false) :
    finishChapter g p draft c =
      { c with
        draft := none, activeCell := none
        records := c.records ++ (draft.chapter? g (c.locks draft)).toList } := by
  have hshown : ((c.paid || draft.lockedByClass) && p.hideLocked) = false := by
    rcases h with h | h
    · unfold ChapterState.locks at h
      simp [h]
    · simp [h]
  unfold finishChapter ChapterDraft.chapter? ChapterState.locks
  simp only [hshown, Bool.false_eq_true, ↓reduceIte]
  split <;> simp

end Finish

end State

end Feuilleton
