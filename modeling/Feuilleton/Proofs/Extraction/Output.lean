import Feuilleton.Proofs.Extraction.Chapters
import Feuilleton.Proofs.Extraction.Run

/-!
# Output

The text of the summary, the kept chapters and the counts of a state are output: steps add to them,
but nothing that a step does depends on what they hold. A change of the output therefore can be made
before a step or after it.
-/

namespace Feuilleton

structure Output where
  summary : String
  hidden : Nat
  records : List Chapter
  seen : Nat
  deriving DecidableEq, Repr

namespace State

variable {g : Grammar} {p : Policy} {s : State} {name content : String}
  {attributes : Attributes} {f : Output → Output}

def output (s : State) : Output :=
  ⟨s.work.summary, s.chapters.hidden, s.chapters.records, s.seen⟩

def mapOutput (f : Output → Output) (s : State) : State :=
  let o := f s.output
  { s with
    work := { s.work with summary := o.summary }
    chapters := { s.chapters with hidden := o.hidden, records := o.records }
    seen := o.seen }

@[simp] theorem mapOutput_mode : (s.mapOutput f).mode = s.mode := rfl

@[simp] theorem mapOutput_readingTag :
    (s.mapOutput f).genres.readingTag = s.genres.readingTag := rfl

@[simp] theorem mapOutput_draft : (s.mapOutput f).chapters.draft = s.chapters.draft := rfl

@[simp] theorem mapOutput_activeCell :
    (s.mapOutput f).chapters.activeCell = s.chapters.activeCell := rfl

@[simp] theorem mapOutput_endTag : (s.mapOutput f).chapters.endTag = s.chapters.endTag := rfl

@[simp] theorem mapOutput_name : (s.mapOutput f).work.name = s.work.name := rfl

/-! ## Open tags -/

theorem captureCover_mapOutput : (s.mapOutput f).captureCover g name attributes =
    (s.captureCover g name attributes).mapOutput f := by
  unfold captureCover
  rw [apply_ite (mapOutput f)]
  rfl

theorem enterRating_mapOutput : (s.mapOutput f).enterRating name attributes =
    (s.enterRating name attributes).mapOutput f := by
  unfold enterRating
  cases readRating? (attributes.value "content") <;> rfl

theorem openIdle_mapOutput : (s.mapOutput f).openIdle g name attributes =
    (s.openIdle g name attributes).mapOutput f := by
  unfold openIdle
  simp only [enterRating_mapOutput, apply_ite (mapOutput f)]
  rfl

theorem openGenres_mapOutput : (s.mapOutput f).openGenres g name attributes =
    (s.openGenres g name attributes).mapOutput f := by
  unfold openGenres
  rw [apply_ite (mapOutput f)]
  rfl

theorem openSummary_mapOutput : (s.mapOutput f).openSummary g name =
    (s.openSummary g name).mapOutput f := by
  unfold openSummary
  rw [apply_ite (mapOutput f)]
  rfl

theorem openInfo_mapOutput : (s.mapOutput f).openInfo g name attributes =
    (s.openInfo g name attributes).mapOutput f := by
  unfold openInfo
  rw [apply_ite (mapOutput f)]
  rfl

theorem openItem_mapOutput : (s.mapOutput f).openItem g name attributes =
    (s.openItem g name attributes).mapOutput f := by
  unfold openItem
  rw [apply_ite (mapOutput f)]
  rfl

theorem openChapters_mapOutput : (s.mapOutput f).openChapters g name attributes =
    (s.openChapters g name attributes).mapOutput f := by
  unfold openChapters
  rw [mapOutput_draft]
  cases s.chapters.draft with
  | none => exact openItem_mapOutput
  | some draft =>
      simp only [apply_ite (mapOutput f)]
      cases cellOf? g name attributes <;> rfl

theorem stepOpened_mapOutput : (s.mapOutput f).stepOpened g name attributes =
    (s.stepOpened g name attributes).mapOutput f := by
  unfold stepOpened
  simp only [captureCover_mapOutput, mapOutput_mode]
  cases (s.captureCover g name attributes).mode with
  | idle => exact openIdle_mapOutput
  | title => rfl
  | rating => rfl
  | genres => exact openGenres_mapOutput
  | summary => exact openSummary_mapOutput
  | info => exact openInfo_mapOutput
  | chapters => exact openChapters_mapOutput

/-! ## Texts -/

/-- The change leaves what is added to the summary where it is. -/
def KeepsProse (f : Output → Output) : Prop :=
  ∀ o content, f { o with summary := o.summary ++ content } =
    { f o with summary := (f o).summary ++ content }

theorem textGenres_mapOutput : (s.mapOutput f).textGenres content =
    (s.textGenres content).mapOutput f := by
  unfold textGenres
  rw [apply_ite (mapOutput f)]
  rfl

theorem appendSummary_mapOutput (hf : KeepsProse f) :
    (s.mapOutput f).appendSummary content = (s.appendSummary content).mapOutput f := by
  have hprose : f (s.appendSummary content).output =
      { f s.output with summary := (f s.output).summary ++ content } := hf s.output content
  unfold mapOutput
  rw [hprose]
  rfl

theorem textSummary_mapOutput (hf : KeepsProse f) : (s.mapOutput f).textSummary content =
    (s.textSummary content).mapOutput f := by
  unfold textSummary
  rw [apply_ite (mapOutput f), appendSummary_mapOutput hf]
  rfl

theorem assignInfo_summary (work : WorkDraft) (field : Option InfoField) :
    (assignInfo content work field).summary = work.summary := by
  rcases field with _ | _ | _ | _ <;> rfl

theorem assignInfo_withSummary (work : WorkDraft) (summary : String) (field : Option InfoField) :
    assignInfo content { work with summary } field =
      { assignInfo content work field with summary } := by
  rcases field with _ | _ | _ | _ <;> rfl

theorem textInfo_mapOutput : (s.mapOutput f).textInfo content =
    (s.textInfo content).mapOutput f := by
  unfold textInfo
  rw [apply_ite (mapOutput f)]
  simp only [mapOutput, output, assignInfo_summary, assignInfo_withSummary]

theorem cellText_mapOutput {workName : String} (hidden : Nat) (records : List Chapter)
    {c : ChapterState} {draft : ChapterDraft} (cell : Cell) :
    cellText g workName content { c with hidden, records } draft cell =
      (cellText g workName content c draft cell).map fun c => { c with hidden, records } := by
  cases cell with
  | number =>
      simp only [cellText, numberText]
      cases takeNumber content draft <;> rfl
  | title =>
      simp only [cellText, titleText]
      split
      · cases takeNumber content { draft with name := stripWorkName content workName } <;> rfl
      · rfl
  | date => simp only [cellText, Except.map]
  | price => simp only [cellText, Except.map]

theorem textChapters_mapOutput : (s.mapOutput f).textChapters g content =
    (s.textChapters g content).map (mapOutput f) := by
  unfold textChapters
  rw [mapOutput_draft, mapOutput_activeCell, mapOutput_name]
  cases hdraft : s.chapters.draft with
  | none => rfl
  | some draft =>
      cases s.chapters.activeCell with
      | none => rfl
      | some cell =>
          have hcell : cellText g s.work.name content (s.mapOutput f).chapters draft cell = _ :=
            cellText_mapOutput _ _ cell
          simp only [hcell]
          cases htext : cellText g s.work.name content s.chapters draft cell with
          | error tooLong => rfl
          | ok c =>
              obtain ⟨draft', -, hc⟩ := cellText_eq_ok hdraft htext
              rw [hc]
              rfl

theorem stepText_mapOutput (hf : KeepsProse f) : (s.mapOutput f).stepText g content =
    (s.stepText g content).map (mapOutput f) := by
  unfold stepText
  rw [mapOutput_mode]
  cases s.mode with
  | idle => rfl
  | title => rfl
  | rating => rfl
  | genres => exact congrArg Except.ok textGenres_mapOutput
  | summary => exact congrArg Except.ok (textSummary_mapOutput hf)
  | info => exact congrArg Except.ok textInfo_mapOutput
  | chapters => exact textChapters_mapOutput

/-! ## Close tags -/

theorem closeTitle_mapOutput : (s.mapOutput f).closeTitle name =
    (s.closeTitle name).mapOutput f := by
  unfold closeTitle
  rw [apply_ite (mapOutput f)]
  rfl

theorem closeRating_mapOutput : (s.mapOutput f).closeRating name =
    (s.closeRating name).mapOutput f := by
  unfold closeRating
  rw [apply_ite (mapOutput f)]
  rfl

theorem closeGenres_mapOutput : (s.mapOutput f).closeGenres name =
    (s.closeGenres name).mapOutput f := by
  unfold closeGenres
  rw [mapOutput_readingTag]
  cases s.genres.readingTag with
  | none => rfl
  | some tag =>
      simp only [apply_ite (mapOutput f)]
      rfl

theorem closeSummary_mapOutput (hf : KeepsProse f) : (s.mapOutput f).closeSummary g name =
    (s.closeSummary g name).mapOutput f := by
  unfold closeSummary
  simp only [apply_ite (mapOutput f), appendSummary_mapOutput hf]
  rfl

theorem closeInfo_mapOutput : (s.mapOutput f).closeInfo name =
    (s.closeInfo name).mapOutput f := by
  unfold closeInfo
  simp only [apply_ite (mapOutput f)]
  rfl

/-- The change leaves everything that is added to the output where it is. -/
structure Additive (f : Output → Output) : Prop where
  prose : KeepsProse f
  hidden : ∀ o, f { o with hidden := o.hidden + 1 } = { f o with hidden := (f o).hidden + 1 }
  records : ∀ o chapters, f { o with records := o.records ++ chapters } =
    { f o with records := (f o).records ++ chapters }
  seen : ∀ o, f { o with seen := o.seen + 1 } = { f o with seen := (f o).seen + 1 }

theorem finishChapter_mapOutput (hf : Additive f) (draft : ChapterDraft) :
    { s.mapOutput f with chapters := finishChapter g p draft (s.mapOutput f).chapters } =
      ({ s with chapters := finishChapter g p draft s.chapters } : State).mapOutput f := by
  have hlocks : (s.mapOutput f).chapters.locks draft = s.chapters.locks draft := rfl
  by_cases hshown : s.chapters.locks draft = false ∨ p.hideLocked = false
  · have hadded := hf.records s.output (draft.chapter? g (s.chapters.locks draft)).toList
    rw [finishChapter_of_shown hshown, finishChapter_of_shown (hlocks ▸ hshown), hlocks]
    unfold mapOutput output
    simp only [output] at hadded
    rw [hadded]
  · rw [not_or, Bool.not_eq_false, Bool.not_eq_false] at hshown
    have hadded := hf.hidden s.output
    rw [finishChapter_of_hidden hshown.1 hshown.2,
      finishChapter_of_hidden (hlocks.trans hshown.1) hshown.2]
    unfold mapOutput output
    simp only [output] at hadded
    rw [hadded]

theorem closeChapters_mapOutput (hf : Additive f) : (s.mapOutput f).closeChapters g p name =
    (s.closeChapters g p name).mapOutput f := by
  unfold closeChapters
  rw [mapOutput_draft, mapOutput_activeCell, mapOutput_endTag]
  cases s.chapters.draft with
  | none =>
      simp only [apply_ite (mapOutput f)]
      rfl
  | some draft =>
      simp only [apply_ite (mapOutput f), ← finishChapter_mapOutput hf]
      rfl

theorem stepClosed_mapOutput (hf : Additive f) : (s.mapOutput f).stepClosed g p name =
    (s.stepClosed g p name).mapOutput f := by
  unfold stepClosed
  rw [mapOutput_mode]
  cases s.mode with
  | idle => rfl
  | title => exact closeTitle_mapOutput
  | rating => exact closeRating_mapOutput
  | genres => exact closeGenres_mapOutput
  | summary => exact closeSummary_mapOutput hf.prose
  | info => exact closeInfo_mapOutput
  | chapters => exact closeChapters_mapOutput hf

/-! ## Runs -/

theorem count_mapOutput (hf : Additive f) : (s.mapOutput f).count = s.count.mapOutput f := by
  have hcounted : f s.count.output = { f s.output with seen := (f s.output).seen + 1 } :=
    hf.seen s.output
  unfold mapOutput
  rw [hcounted]
  rfl

theorem step_mapOutput (hf : Additive f) (event : Event) : (s.mapOutput f).step g p event =
    (s.step g p event).map (mapOutput f) := by
  cases event with
  | opened name attributes =>
      simp only [step, count_mapOutput hf, stepOpened_mapOutput, Except.map]
  | text content => simp only [step, count_mapOutput hf, stepText_mapOutput hf.prose]
  | closed name => simp only [step, count_mapOutput hf, stepClosed_mapOutput hf, Except.map]

theorem run_mapOutput (hf : Additive f) (events : List Event) :
    (s.mapOutput f).run g p events = (s.run g p events).map (mapOutput f) := by
  induction events generalizing s with
  | nil => rfl
  | cons event events ih =>
      rw [run_cons, run_cons, step_mapOutput hf]
      cases s.step g p event with
      | error tooLong => rfl
      | ok t => exact ih

end State

end Feuilleton
