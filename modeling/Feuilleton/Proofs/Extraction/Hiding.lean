import Feuilleton.Proofs.Extraction.Output

/-!
# Hiding locked chapters

Two runs over the same page, of which one hides locked chapters, go through the same states but
for the kept chapters and their count. Hiding keeps exactly the unlocked chapters.
-/

namespace Feuilleton

variable {g : Grammar} {s t : State} {name content : String}
  {attributes : Attributes} {hidden : Nat} {records : List Chapter}

def unlocked (chapters : List Chapter) : List Chapter :=
  chapters.filter (!·.locked)

theorem unlocked_append (first rest : List Chapter) :
    unlocked (first ++ rest) = unlocked first ++ unlocked rest :=
  List.filter_append ..

theorem unlocked_chapter? {locked : Bool} {draft : ChapterDraft} :
    unlocked (draft.chapter? g locked).toList =
      if locked then [] else (draft.chapter? g locked).toList := by
  cases hchapter : draft.chapter? g locked with
  | none => cases locked <;> rfl
  | some chapter =>
      have hlocked := State.locked_of_chapter? hchapter
      cases locked <;> simp [unlocked, hlocked]

/-! ## What hiding may change -/

/-- The same chapter state with other kept chapters. -/
def ChapterState.withKept (hidden : Nat) (records : List Chapter) (c : ChapterState) :
    ChapterState :=
  { c with hidden, records }

namespace State

def withKept (hidden : Nat) (records : List Chapter) (s : State) : State :=
  { s with chapters := s.chapters.withKept hidden records }

/-- The kept chapters are output: no step depends on them. -/
theorem withKept_eq_mapOutput :
    s.withKept hidden records = s.mapOutput fun o => { o with hidden, records } := rfl

theorem stepText_withKept : (s.withKept hidden records).stepText g content =
    (s.stepText g content).map (withKept hidden records) :=
  stepText_mapOutput (f := fun o => { o with hidden, records }) fun _ _ => rfl

section Finish

variable {shows hides : Policy}

/-- The end of an item hides a locked chapter where the other run keeps it. -/
theorem finishChapter_withKept {c : ChapterState} (draft : ChapterDraft)
    (hshows : shows.hideLocked = false) (hhides : hides.hideLocked = true) :
    ∃ hidden', finishChapter g hides draft (c.withKept hidden (unlocked c.records)) =
      (finishChapter g shows draft c).withKept hidden'
        (unlocked (finishChapter g shows draft c).records) := by
  have hlocks : (c.withKept hidden (unlocked c.records)).locks draft = c.locks draft := rfl
  rw [finishChapter_of_shown (.inr hshows)]
  simp only [unlocked_append, unlocked_chapter?]
  cases h : c.locks draft with
  | true =>
      refine ⟨hidden + 1, ?_⟩
      rw [finishChapter_of_hidden (hlocks.trans h) hhides]
      simp [ChapterState.withKept]
  | false =>
      refine ⟨hidden, ?_⟩
      rw [finishChapter_of_shown (.inl (hlocks.trans h)), hlocks, h]
      simp [ChapterState.withKept]

end Finish

/-! ## Two runs -/

/-- `t` is `s` without its locked chapters; they may be counted there. -/
def Hides (s t : State) : Prop :=
  ∃ hidden, t = s.withKept hidden (unlocked s.chapters.records)

theorem Hides.records_eq (h : Hides s t) :
    t.chapters.records = unlocked s.chapters.records := by
  obtain ⟨hidden, rfl⟩ := h
  rfl

/-- Both fail for one reason, or the second state hides what the first one shows. -/
inductive HidesOutcome : Except Text.NumeralTooLong State → Except Text.NumeralTooLong State → Prop
  | error (tooLong : Text.NumeralTooLong) : HidesOutcome (.error tooLong) (.error tooLong)
  | ok {s t : State} : Hides s t → HidesOutcome (.ok s) (.ok t)

/-- What reads no kept chapter, changes none. -/
theorem Hides.map {f : State → State} (h : Hides s t)
    (hf : ∀ change, KeepsProse change → f (s.mapOutput change) = (f s).mapOutput change) :
    Hides (f s) (f t) := by
  obtain ⟨hidden, rfl⟩ := h
  have hkept (hidden : Nat) (records : List Chapter) :
      f (s.withKept hidden records) = (f s).withKept hidden records :=
    hf (fun o => { o with hidden, records }) fun _ _ => rfl
  have hsame : f s = (f s).withKept s.chapters.hidden s.chapters.records := hkept _ _
  have hrecords : (f s).chapters.records = s.chapters.records := by
    rw [hsame]
    rfl
  exact ⟨hidden, by rw [hkept, hrecords]⟩

theorem Hides.stepText (h : Hides s t) :
    HidesOutcome (s.stepText g content) (t.stepText g content) := by
  obtain ⟨hidden, rfl⟩ := h
  have hsame : s.stepText g content =
      (s.stepText g content).map (withKept s.chapters.hidden s.chapters.records) :=
    stepText_withKept (s := s)
  rw [stepText_withKept]
  cases htext : s.stepText g content with
  | error tooLong => exact .error tooLong
  | ok u =>
      rw [htext] at hsame
      have hrecords : u.chapters.records = s.chapters.records := by
        rw [Except.ok.inj hsame]
        rfl
      exact .ok ⟨hidden, by rw [hrecords]⟩

section Runs

variable {shows hides : Policy}

theorem Hides.closeChapters (h : Hides s t)
    (hshows : shows.hideLocked = false) (hhides : hides.hideLocked = true) :
    Hides (s.closeChapters g shows name) (t.closeChapters g hides name) := by
  obtain ⟨hidden, rfl⟩ := h
  unfold State.closeChapters
  rw [withKept_eq_mapOutput, mapOutput_draft, mapOutput_activeCell, mapOutput_endTag,
    ← withKept_eq_mapOutput]
  cases s.chapters.draft with
  | none =>
      by_cases hname : name = s.chapters.endTag
      · simp only [hname, ↓reduceIte]
        exact ⟨hidden, rfl⟩
      · simp only [hname, ↓reduceIte]
        exact ⟨hidden, rfl⟩
  | some draft =>
      simp only
      split
      · exact ⟨hidden, rfl⟩
      · split
        · obtain ⟨hidden', hfinish⟩ :=
            finishChapter_withKept (g := g) (c := s.chapters) draft hshows hhides
          exact ⟨hidden', congrArg (fun chapters => { s with chapters }) hfinish⟩
        · exact ⟨hidden, rfl⟩

theorem Hides.stepClosed (h : Hides s t)
    (hshows : shows.hideLocked = false) (hhides : hides.hideLocked = true) :
    Hides (s.stepClosed g shows name) (t.stepClosed g hides name) := by
  have hmode : t.mode = s.mode := by
    obtain ⟨hidden, rfl⟩ := h
    rfl
  unfold State.stepClosed
  rw [hmode]
  cases s.mode with
  | idle => exact h
  | title => exact h.map fun _ _ => closeTitle_mapOutput
  | rating => exact h.map fun _ _ => closeRating_mapOutput
  | genres => exact h.map fun _ _ => closeGenres_mapOutput
  | summary => exact h.map fun _ hprose => closeSummary_mapOutput hprose
  | info => exact h.map fun _ _ => closeInfo_mapOutput
  | chapters => exact h.closeChapters hshows hhides

theorem Hides.step (event : Event) (h : Hides s t)
    (hshows : shows.hideLocked = false) (hhides : hides.hideLocked = true) :
    HidesOutcome (s.step g shows event) (t.step g hides event) := by
  have hcount : Hides s.count t.count := by
    obtain ⟨hidden, rfl⟩ := h
    exact ⟨hidden, rfl⟩
  cases event with
  | opened name attributes => exact .ok (hcount.map fun _ _ => stepOpened_mapOutput)
  | text content => exact hcount.stepText
  | closed name => exact .ok (hcount.stepClosed hshows hhides)

/-- Nothing that later events read depends on the hidden chapters. -/
theorem Hides.run (events : List Event) (h : Hides s t)
    (hshows : shows.hideLocked = false) (hhides : hides.hideLocked = true) :
    HidesOutcome (s.run g shows events) (t.run g hides events) := by
  induction events generalizing s t with
  | nil => exact .ok h
  | cons event events ih =>
      have hstep := h.step (g := g) event hshows hhides
      rw [run_cons, run_cons]
      generalize s.step g shows event = shown at hstep
      generalize t.step g hides event = hidden at hstep
      cases hstep with
      | error tooLong => exact .error tooLong
      | ok hnext => exact ih hnext

theorem hides_initial (path : String) : Hides (initial path) (initial path) :=
  ⟨0, rfl⟩

end Runs

end State

end Feuilleton
