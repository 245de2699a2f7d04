import Feuilleton.Extraction.Outcome
import Feuilleton.Grammar.Theme
import Feuilleton.Proofs.Extraction.Hiding

/-!
# Works with hidden chapters

A work whose locked chapters are hidden is the work that shows them, less the locked chapters.
Only dates stand against it: a date that cannot be resolved fails the whole work, and a hidden
chapter takes its date with it.
-/

namespace Feuilleton

variable {g : Grammar} {dates : DateParser} {now : Moment} {path : String}
  {events : List Event}

namespace State

/-! ## Dates -/

/-- The date of the chapter can be resolved. -/
def isDated (dates : DateParser) (now : Moment) (chapter : Chapter) : Bool :=
  (releaseTime dates now chapter.releaseTime).isOk

/-- A chapter of the finished work. -/
def settled (numbering : Numbering) (position : Nat) (releaseTime : Option String)
    (chapter : Chapter) : Chapter :=
  { chapter with
    releaseTime
    number := match numbering with
      | .parsed => chapter.number
      | .position => position }

theorem settleChapters_cons (numbering : Numbering) (position : Nat) (chapter : Chapter)
    (chapters : List Chapter) :
    settleChapters numbering dates now position (chapter :: chapters) =
      releaseTime dates now chapter.releaseTime >>= fun time =>
        settleChapters numbering dates now (position + 1) chapters >>= fun rest =>
          .ok (settled numbering position time chapter :: rest) := rfl

theorem settleChapters_cons_eq_ok {numbering : Numbering} {position : Nat} {chapter : Chapter}
    {chapters result : List Chapter}
    (h : settleChapters numbering dates now position (chapter :: chapters) = .ok result) :
    ∃ time rest, releaseTime dates now chapter.releaseTime = .ok time ∧
      settleChapters numbering dates now (position + 1) chapters = .ok rest ∧
      result = settled numbering position time chapter :: rest := by
  obtain ⟨time, htime, h⟩ := exists_of_bind_eq_ok h
  obtain ⟨rest, hrest, h⟩ := exists_of_bind_eq_ok h
  exact ⟨time, rest, htime, hrest, (Except.ok.inj h).symm⟩

theorem isOk_settleChapters {numbering : Numbering} (position : Nat) (chapters : List Chapter) :
    (settleChapters numbering dates now position chapters).isOk =
      chapters.all (isDated dates now) := by
  induction chapters generalizing position with
  | nil => rfl
  | cons chapter chapters ih =>
      rw [List.all_cons, ← ih (position + 1), settleChapters_cons, isDated]
      cases releaseTime dates now chapter.releaseTime with
      | error e => rfl
      | ok time => cases settleChapters numbering dates now (position + 1) chapters <;> rfl

/-! ## Numbers -/

/-- The chapters, numbered from `position` on. -/
def numberedFrom (position : Nat) : List Chapter → List Chapter
  | [] => []
  | chapter :: rest => { chapter with number := position } :: numberedFrom (position + 1) rest

/-- The unlocked chapters of a finished work, counted anew where positions count. -/
def recounted (numbering : Numbering) (position : Nat) (chapters : List Chapter) : List Chapter :=
  match numbering with
  | .parsed => unlocked chapters
  | .position => numberedFrom position (unlocked chapters)

theorem recounted_locked {numbering : Numbering} {position : Nat} {chapter : Chapter}
    {chapters : List Chapter} (h : chapter.locked = true) :
    recounted numbering position (chapter :: chapters) = recounted numbering position chapters := by
  simp [recounted, unlocked, h]

theorem recounted_settled {numbering : Numbering} {position start : Nat} {chapter : Chapter}
    {time : Option String} {chapters : List Chapter} (h : chapter.locked = false) :
    recounted numbering start (settled numbering position time chapter :: chapters) =
      settled numbering start time chapter :: recounted numbering (start + 1) chapters := by
  cases numbering <;> simp [recounted, unlocked, settled, numberedFrom, h]

/-- The induction is on the chapters; behind a locked one the two counts drift apart. -/
theorem settleChapters_unlocked {numbering : Numbering} {position : Nat} (start : Nat)
    {chapters result : List Chapter}
    (h : settleChapters numbering dates now position chapters = .ok result) :
    settleChapters numbering dates now start (unlocked chapters) =
      .ok (recounted numbering start result) := by
  induction chapters generalizing position start result with
  | nil =>
      cases h
      cases numbering <;> rfl
  | cons chapter chapters ih =>
      obtain ⟨time, rest, htime, hrest, rfl⟩ := settleChapters_cons_eq_ok h
      cases hlocked : chapter.locked with
      | true =>
          have hsettled : (settled numbering position time chapter).locked = true := hlocked
          rw [recounted_locked hsettled, ← ih start hrest]
          simp [unlocked, hlocked]
      | false =>
          have hunlocked : unlocked (chapter :: chapters) = chapter :: unlocked chapters := by
            simp [unlocked, hlocked]
          rw [hunlocked, recounted_settled hlocked, settleChapters_cons, htime,
            ih (start + 1) hrest]
          rfl

theorem readingOrder_unlocked (chapters : List Chapter) :
    readingOrder g (unlocked chapters) = unlocked (readingOrder g chapters) := by
  unfold readingOrder unlocked
  split
  · rw [List.filter_reverse]
  · rfl

theorem all_readingOrder {f : Chapter → Bool} (chapters : List Chapter) :
    (readingOrder g chapters).all f = chapters.all f := by
  unfold readingOrder
  split
  · exact List.all_reverse
  · rfl

/-! ## Works -/

/-- The finished work, its chapters apart. -/
def settledWork (s : State) (chapters : List Chapter) : Work where
  path := s.work.path
  name := Text.trim s.work.name
  cover := coverOrDefault s.work.cover
  summary := Text.trim s.work.summary
  author := Text.trim s.work.author
  artist := Text.trim s.work.artist
  status := s.work.status.getD .unknown
  genres := settledGenres s.genres.fragments
  rating := s.work.rating
  chapters := chapters

variable {p : Policy} {s : State}

/-- The chapters of the finished work. -/
def settledChapters (g : Grammar) (p : Policy) (s : State) : Except DateError (List Chapter) :=
  settleChapters g.numbering p.dates p.now 1 (readingOrder g s.chapters.records)

theorem toWork_eq_map : s.toWork g p = (s.settledChapters g p).map s.settledWork := by
  unfold toWork settledChapters
  cases settleChapters g.numbering p.dates p.now 1 (readingOrder g s.chapters.records) <;> rfl

theorem exists_of_finish_eq_ok {work : Work} (h : s.finish g p = .ok work) :
    ∃ chapters, s.settledChapters g p = .ok chapters ∧ work = s.settledWork chapters := by
  unfold finish at h
  rw [toWork_eq_map] at h
  cases hsettle : s.settledChapters g p with
  | error e => rw [hsettle] at h; cases h
  | ok chapters => rw [hsettle] at h; cases h; exact ⟨chapters, rfl, rfl⟩

theorem finish_of_settledChapters {chapters : List Chapter}
    (h : s.settledChapters g p = .ok chapters) :
    s.finish g p = .ok (s.settledWork chapters) := by
  unfold finish
  rw [toWork_eq_map, h]
  rfl

theorem isOk_settledChapters :
    (s.settledChapters g p).isOk = s.chapters.records.all (isDated p.dates p.now) := by
  rw [settledChapters, isOk_settleChapters, all_readingOrder]

theorem finish_of_dated (h : s.chapters.records.all (isDated p.dates p.now) = true) :
    ∃ chapters, s.settledChapters g p = .ok chapters ∧
      s.finish g p = .ok (s.settledWork chapters) := by
  rw [← isOk_settledChapters (g := g)] at h
  unfold finish
  rw [toWork_eq_map]
  cases hsettle : s.settledChapters g p with
  | error e => rw [hsettle] at h; cases h
  | ok chapters => exact ⟨chapters, rfl, rfl⟩

theorem finish_of_undated (h : s.chapters.records.all (isDated p.dates p.now) = false) :
    s.finish g p = .error .impreciseDate := by
  rw [← isOk_settledChapters (g := g)] at h
  unfold finish
  rw [toWork_eq_map]
  cases hsettle : s.settledChapters g p with
  | error e => rfl
  | ok chapters => rw [hsettle] at h; cases h

theorem all_unlocked {f : Chapter → Bool} {chapters : List Chapter} (h : chapters.all f = true) :
    (unlocked chapters).all f = true := by
  rw [List.all_eq_true] at h ⊢
  intro chapter hchapter
  exact h chapter (List.mem_filter.1 hchapter).1

/-- Where both works are finished, the second one is the first one less its locked chapters. -/
theorem Hides.finish_of_dated {t : State} {q : Policy} (h : Hides s t)
    (hdates : q.dates = p.dates) (hnow : q.now = p.now)
    (hdated : s.chapters.records.all (isDated p.dates p.now) = true) :
    ∃ shown, s.finish g p = .ok shown ∧
      t.finish g q = .ok { shown with chapters := recounted g.numbering 1 shown.chapters } := by
  obtain ⟨hidden, rfl⟩ := h
  obtain ⟨chapters, hchapters, hshown⟩ := State.finish_of_dated (g := g) hdated
  obtain ⟨kept, hkept, hhidden⟩ := State.finish_of_dated (g := g) (p := q)
    (s := s.withKept hidden (unlocked s.chapters.records))
    (by rw [hdates, hnow]; exact all_unlocked hdated)
  have hrecounted : kept = recounted g.numbering 1 chapters := by
    have hunlocked := settleChapters_unlocked 1 hchapters
    rw [← readingOrder_unlocked, ← hdates, ← hnow] at hunlocked
    exact Except.ok.inj (hkept.symm.trans hunlocked)
  refine ⟨_, hshown, ?_⟩
  rw [hhidden, hrecounted]
  rfl

end State

open State

/-! ## Hiding -/

/-- The same wishes, with locked chapters shown. -/
def Policy.showing (p : Policy) : Policy :=
  { p with hideLocked := false }

def Policy.hiding (p : Policy) : Policy :=
  { p with hideLocked := true }

/-- What hiding promises: it fails where showing fails, and else leaves out the locked chapters
and changes nothing besides. -/
def HidesLocked (g : Grammar) (p : Policy) (path : String) (events : List Event) : Prop :=
  (∃ e e', extract g p.showing path events = .error e ∧
    extract g p.hiding path events = .error e') ∨
  ∃ s t shown hidden,
    (initial path).run g p.showing events = .ok s ∧
    (initial path).run g p.hiding events = .ok t ∧
    t.chapters.records = unlocked s.chapters.records ∧
    extract g p.showing path events = .ok shown ∧
    extract g p.hiding path events = .ok hidden ∧
    hidden = { shown with chapters := hidden.chapters } ∧
    hidden.chapters = recounted g.numbering 1 shown.chapters

section Promise

variable {p : Policy} {s : State}

theorem extract_of_run (h : (initial path).run g p events = .ok s) :
    extract g p path events = s.finish g p := by
  rw [extract, h]

theorem exists_of_extract_eq_ok {work : Work}
    (h : extract g p path events = .ok work) :
    ∃ s, (initial path).run g p events = .ok s ∧ s.finish g p = .ok work := by
  unfold extract at h
  split at h
  · rename_i s hs
    exact ⟨s, hs, h⟩
  · cases h

theorem hidesOutcome_run (g : Grammar) (p : Policy) (path : String) (events : List Event) :
    HidesOutcome ((initial path).run g p.showing events)
      ((initial path).run g p.hiding events) :=
  (hides_initial path).run events rfl rfl

theorem exists_run_hiding (h : (initial path).run g p.showing events = .ok s) :
    ∃ t, (initial path).run g p.hiding events = .ok t ∧ Hides s t := by
  have hrun := hidesOutcome_run g p path events
  rw [h] at hrun
  generalize (initial path).run g p.hiding events = hidden at hrun
  cases hrun with
  | ok hides => exact ⟨_, rfl, hides⟩

theorem hidesLocked_of_error {tooLong : Text.NumeralTooLong}
    (h : (initial path).run g p.showing events = .error tooLong) :
    HidesLocked g p path events := by
  have hrun := hidesOutcome_run g p path events
  rw [h] at hrun
  generalize hhidden : (initial path).run g p.hiding events = hidden at hrun
  cases hrun with
  | error => exact .inl ⟨_, _, by rw [extract, h], by rw [extract, hhidden]⟩

theorem hidesLocked_of_dated (h : (initial path).run g p.showing events = .ok s)
    (hdated : s.chapters.records.all (isDated p.dates p.now) = true) :
    HidesLocked g p path events := by
  obtain ⟨t, ht, hides⟩ := exists_run_hiding h
  obtain ⟨shown, hshown, hhidden⟩ := hides.finish_of_dated (g := g) (p := p.showing)
    (q := p.hiding) rfl rfl hdated
  rw [← extract_of_run h] at hshown
  rw [← extract_of_run ht] at hhidden
  exact .inr ⟨s, t, shown, _, h, ht, hides.records_eq, hshown, hhidden, rfl, rfl⟩

theorem hidesLocked_of_undated (h : (initial path).run g p.showing events = .ok s)
    (hundated : (unlocked s.chapters.records).all (isDated p.dates p.now) = false) :
    HidesLocked g p path events := by
  obtain ⟨t, ht, hides⟩ := exists_run_hiding h
  have hdated : s.chapters.records.all (isDated p.dates p.now) = false := by
    cases hall : s.chapters.records.all (isDated p.dates p.now) with
    | false => rfl
    | true => rw [all_unlocked hall] at hundated; contradiction
  rw [← hides.records_eq] at hundated
  have hshown := (extract_of_run h).trans (finish_of_undated hdated)
  have hhidden := (extract_of_run ht).trans (finish_of_undated hundated)
  exact .inl ⟨_, _, hshown, hhidden⟩

/-- A locked chapter whose date does not resolve fails only the work that shows it. -/
theorem not_hidesLocked (h : (initial path).run g p.showing events = .ok s)
    (hundated : s.chapters.records.all (isDated p.dates p.now) = false)
    (hdated : (unlocked s.chapters.records).all (isDated p.dates p.now) = true) :
    ¬HidesLocked g p path events := by
  obtain ⟨t, ht, hides⟩ := exists_run_hiding h
  rw [← hides.records_eq] at hdated
  obtain ⟨_, -, hfinish⟩ := finish_of_dated (g := g) (p := p.hiding) hdated
  have hshown := (extract_of_run h).trans (finish_of_undated hundated)
  have hhidden := (extract_of_run ht).trans hfinish
  rintro (⟨_, _, -, herror⟩ | ⟨_, _, _, _, -, -, -, hok, -⟩)
  · rw [hhidden] at herror
    contradiction
  · rw [hshown] at hok
    contradiction

end Promise

/-- Hiding keeps its promise unless the dates of all unlocked chapters resolve, but that of some
locked chapter does not. -/
theorem hidesLocked_iff {p : Policy} : HidesLocked g p path events ↔
    ∀ s, (initial path).run g p.showing events = .ok s →
      (unlocked s.chapters.records).all (isDated p.dates p.now) = true →
      s.chapters.records.all (isDated p.dates p.now) = true := by
  constructor
  · intro hhides s hs hdated
    cases hall : s.chapters.records.all (isDated p.dates p.now) with
    | true => rfl
    | false => exact absurd hhides (not_hidesLocked hs hall hdated)
  · intro hdates
    cases hs : (initial path).run g p.showing events with
    | error tooLong => exact hidesLocked_of_error hs
    | ok s =>
        cases hdated : (unlocked s.chapters.records).all (isDated p.dates p.now) with
        | true => exact hidesLocked_of_dated hs (hdates s hs hdated)
        | false => exact hidesLocked_of_undated hs hdated

private def lockedSite : Grammar := .lightNovel {
  id := "t"
  sourceName := "T"
  site := "https://e.com/" }

private def noonPolicy : Policy where
  now := ⟨⟨2024, 1, 10⟩, 43200⟩

/-- One chapter with a price, and with more digits for its date than can be divided. -/
private def lockedPage : List Event := [
  .opened "div" (.ofList [("class", "eplister")]), .opened "ul" ∅, .opened "li" ∅,
  .opened "a" (.ofList [("href", "https://e.com/c1/")]),
  .opened "div" (.ofList [("class", "epl-date")]),
  .text "99999999999999999999999999999999999m", .closed "div",
  .opened "div" (.ofList [("class", "epl-price")]), .text "5 Coins", .closed "div",
  .closed "a", .closed "li", .closed "ul", .closed "div"]

/-- Showing the chapter fails on its date, hiding it succeeds. -/
theorem not_hidesLocked_lockedPage : ¬HidesLocked lockedSite noonPolicy "" lockedPage := by
  have hshown : extract lockedSite noonPolicy.showing "" lockedPage =
      .error .impreciseDate := rfl
  have hhidden : extract lockedSite noonPolicy.hiding "" lockedPage = .ok {} := rfl
  rintro (⟨_, _, -, herror⟩ | ⟨_, _, _, _, -, -, -, hok, -⟩)
  · rw [hhidden] at herror
    contradiction
  · rw [hshown] at hok
    contradiction

end Feuilleton
