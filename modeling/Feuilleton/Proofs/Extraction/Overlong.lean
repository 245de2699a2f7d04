import Feuilleton.Proofs.Extraction.ListItem
import Feuilleton.Proofs.Extraction.WellFormed

/-!
# Overlong numbers

Whatever the events of a page and their order, an extraction gives a work. Only one text can keep it
from that: one that is read for the number of a chapter and ends in more digits than a numeral may
have. Nothing else that a step needs is ever missing: a link that is being read has its fragment,
and a chapter that is kept has an address.
-/

namespace Feuilleton

variable {g : Grammar} {p : Policy} {path content : String} {events : List Event}

/-! ## Texts -/

/-- Blanks aside, the text ends in more digits than a numeral may have. -/
def EndsOverlong (content : String) : Prop :=
  ∃ front digits, (Text.trimEnd content).toList = front ++ digits ∧
    (∀ c ∈ digits, Text.isDigit c = true) ∧ Text.maxDigits < digits.length

theorem toList_trimEnd :
    (Text.trimEnd content).toList = Text.dropEndWhile Text.isBlank content.toList := by
  rw [Text.trimEnd, String.toList_ofList]

theorem endsOverlong_iff :
    EndsOverlong content ↔ Text.maxDigits < (trailingDigits content).length := by
  rw [EndsOverlong, toList_trimEnd, trailingDigits]
  constructor
  · rintro ⟨front, digits, heq, hdigits, hlong⟩
    rw [heq, Text.lastDigits_append front hdigits, List.length_append]
    omega
  · intro hlong
    obtain ⟨front, heq, hdigits⟩ :=
      Text.exists_append_lastDigits (Text.dropEndWhile Text.isBlank content.toList)
    exact ⟨front, _, heq, hdigits, hlong⟩

theorem trailingNumber?_eq_error_iff {tooLong : Text.NumeralTooLong} :
    trailingNumber? content = .error tooLong ↔
      EndsOverlong content ∧ tooLong = ⟨(trailingDigits content).length⟩ := by
  rw [endsOverlong_iff, ← Text.readNumeral_eq_error_iff, trailingNumber?, trailingDigits]
  cases Text.lastDigits (Text.dropEndWhile Text.isBlank content.toList) with
  | nil => simp [Text.readNumeral]
  | cons digit digits => exact map_eq_error_iff

/-! ## Steps -/

def ChapterDraft.AwaitsNumber (draft : ChapterDraft) : Cell → Prop
  | .number => True
  | .title => draft.number = none ∨ draft.number = some 0
  | .date | .price => False

namespace State

variable {s : State} {tooLong : Text.NumeralTooLong}

/-- A text would be read for the number of a chapter. -/
def AwaitsNumber (s : State) : Prop :=
  s.mode = .chapters ∧ ∃ draft cell, s.chapters.draft = some draft ∧
    s.chapters.activeCell = some cell ∧ draft.AwaitsNumber cell

theorem takeNumber_eq_error_iff {draft : ChapterDraft} :
    takeNumber content draft = .error tooLong ↔ trailingNumber? content = .error tooLong :=
  map_eq_error_iff

theorem cellText_eq_error_iff {workName : String} {c : ChapterState} {draft : ChapterDraft}
    (cell : Cell) : cellText g workName content c draft cell = .error tooLong ↔
      draft.AwaitsNumber cell ∧ trailingNumber? content = .error tooLong := by
  cases cell with
  | number =>
      simp [cellText, numberText, bind_eq_error_iff, takeNumber_eq_error_iff,
        ChapterDraft.AwaitsNumber]
  | title =>
      have hnumber : draft.AwaitsNumber .title ↔ draft.number.getD 0 = 0 := by
        rcases h : draft.number with _ | n <;> simp [ChapterDraft.AwaitsNumber, h]
      rw [hnumber, cellText, titleText]
      split
      · simp [*, bind_eq_error_iff, takeNumber_eq_error_iff]
      · simp [*, bind_eq_error_iff]
  | date => simp [cellText, ChapterDraft.AwaitsNumber]
  | price => simp [cellText, ChapterDraft.AwaitsNumber]

theorem textChapters_eq_error_iff (hm : s.mode = .chapters) :
    s.textChapters g content = .error tooLong ↔
      s.AwaitsNumber ∧ trailingNumber? content = .error tooLong := by
  unfold textChapters AwaitsNumber
  cases hdraft : s.chapters.draft with
  | none => simp
  | some draft =>
      cases hcell : s.chapters.activeCell with
      | none => simp
      | some cell => simp [hm, map_eq_error_iff, cellText_eq_error_iff]

/-- Only texts fail, and only where they are read for the number of a chapter. -/
theorem step_eq_error_iff {event : Event} : s.step g p event = .error tooLong ↔
    ∃ content, event = .text content ∧ s.AwaitsNumber ∧
      trailingNumber? content = .error tooLong := by
  cases event with
  | opened name attributes => simp [step]
  | closed name => simp [step]
  | text content =>
      simp only [Event.text.injEq, exists_eq_left']
      by_cases hm : s.mode = .chapters
      · have hcounted : s.count.mode = .chapters := hm
        simp only [step, stepText, hcounted]
        exact textChapters_eq_error_iff hcounted
      · obtain ⟨t, ht, -⟩ := chapters_stepText (g := g) (s := s.count) content hm
        simp [step, ht, AwaitsNumber, hm]

/-! ## Runs -/

/-- Some text of the page is read for the number of a chapter and has too many digits. -/
def ReadsOverlong (g : Grammar) (p : Policy) (path : String) (events : List Event) : Prop :=
  ∃ before content after s, events = before ++ .text content :: after ∧
    (initial path).run g p before = .ok s ∧ s.AwaitsNumber ∧ EndsOverlong content

theorem readsOverlong_iff : ReadsOverlong g p path events ↔
    ∃ tooLong, (initial path).run g p events = .error tooLong := by
  constructor
  · rintro ⟨before, content, after, s, heq, hbefore, hawaits, hlong⟩
    have hnumber := trailingNumber?_eq_error_iff.2 ⟨hlong, rfl⟩
    have hstep := (step_eq_error_iff (g := g) (p := p)).2 ⟨content, rfl, hawaits, hnumber⟩
    exact ⟨_, run_eq_error_iff.2 ⟨before, _, after, s, heq, hbefore, hstep⟩⟩
  · rintro ⟨tooLong, h⟩
    obtain ⟨before, event, after, s, heq, hbefore, hstep⟩ := run_eq_error_iff.1 h
    obtain ⟨content, rfl, hawaits, hnumber⟩ := step_eq_error_iff.1 hstep
    have hlong := (trailingNumber?_eq_error_iff.1 hnumber).1
    exact ⟨before, content, after, s, heq, hbefore, hawaits, hlong⟩

theorem maxDigits_lt_of_run (h : s.run g p events = .error tooLong) :
    Text.maxDigits < tooLong.digits := by
  obtain ⟨_, _, _, _, -, -, hstep⟩ := run_eq_error_iff.1 h
  obtain ⟨_, -, -, hnumber⟩ := step_eq_error_iff.1 hstep
  obtain ⟨hlong, rfl⟩ := trailingNumber?_eq_error_iff.1 hnumber
  exact endsOverlong_iff.1 hlong

/-! ## What a step needs -/

/-- The text of a link has a fragment to join, and no chapter was kept without an address. -/
structure Supplied (s : State) : Prop where
  fragment : s.genres.readingTag.isSome → s.genres.fragments ≠ []
  address : ∀ chapter ∈ s.chapters.records, chapter.path ≠ ""

theorem supplied_of_run (h : (initial path).run g p events = .ok s) : s.Supplied where
  fragment := fun hlink => ((Reachable.of_run h).coherent.link hlink).2
  address := fun chapter hchapter => by
    simpa using ((tidy_of_run h).records chapter hchapter).path_nonempty

/-! ## Dates -/

def isWrittenDate (raw : String) : Bool :=
  (Text.firstDigits? raw.toList).isSome && (TimeUnit.inText? (Text.lower raw)).isNone

/-- The reader of written dates either reads the release date or finds that it is none. -/
def HasPlainDate (dates : DateParser) (now : Moment) (chapter : Chapter) : Prop :=
  ∀ raw, chapter.releaseTime = some raw → isWrittenDate (Text.trim raw) = true →
    dates.read (Text.trim raw) now.date ≠ .error .imprecise

section Dates

variable {dates : DateParser} {now : Moment}

theorem isOk_resolve {raw : String}
    (h : isWrittenDate raw = true → dates.read raw now.date ≠ .error .imprecise) :
    (dates.resolve raw now).isOk = true := by
  unfold DateParser.resolve
  cases hdigits : Text.firstDigits? raw.toList with
  | none => rfl
  | some digits =>
      cases hunit : TimeUnit.inText? (Text.lower raw) with
      | some unit => rfl
      | none =>
          have hread := h (by simp [isWrittenDate, hdigits, hunit])
          simp only [DateParser.written]
          cases hdate : dates.read raw now.date with
          | ok date => rfl
          | error e =>
              cases e with
              | unreadable => rfl
              | imprecise => exact absurd hdate hread

theorem isDated_of_hasPlainDate {chapter : Chapter} (h : HasPlainDate dates now chapter) :
    isDated dates now chapter = true := by
  unfold isDated releaseTime
  cases hraw : chapter.releaseTime with
  | none => rfl
  | some raw =>
      simp only
      split
      · rfl
      · rw [isOk_map]
        exact isOk_resolve (h raw hraw)

end Dates

end State

open State

/-! ## Extractions -/

/-- The extraction fails exactly on an overlong number, and gives a work otherwise. Wherever the
page is cut off, nothing else was missing. -/
structure FailsOnOverlong (g : Grammar) (p : Policy) (path : String) (events : List Event) :
    Prop where
  fails_iff : (∃ e, extract g p path events = .error e) ↔ ReadsOverlong g p path events
  cause : ∀ e, extract g p path events = .error e →
    ∃ digits, Text.maxDigits < digits ∧ e = .numeralTooLong digits
  succeeds : ¬ReadsOverlong g p path events → ∃ work, extract g p path events = .ok work
  supplied : ∀ before after s, events = before ++ after →
    (initial path).run g p before = .ok s → s.Supplied

/-- An extraction fails on overlong numbers alone. -/
theorem extract_fails_iff (hdates : ∀ s, (initial path).run g p events = .ok s →
      ∀ chapter ∈ s.chapters.records, HasPlainDate p.dates p.now chapter) :
    FailsOnOverlong g p path events := by
  have hsupplied : ∀ before after s, events = before ++ after →
      (initial path).run g p before = .ok s → s.Supplied :=
    fun _ _ _ _ hbefore => supplied_of_run hbefore
  cases hrun : (initial path).run g p events with
  | error tooLong =>
      have hfails : extract g p path events = .error (.numeralTooLong tooLong.digits) := by
        rw [extract, hrun]
      exact {
        fails_iff := by simp [readsOverlong_iff, hrun, hfails]
        cause := by simp [hfails, maxDigits_lt_of_run hrun]
        succeeds := by simp [readsOverlong_iff, hrun]
        supplied := hsupplied }
  | ok s =>
      have hall : s.chapters.records.all (isDated p.dates p.now) = true := by
        rw [List.all_eq_true]
        exact fun chapter hchapter => isDated_of_hasPlainDate (hdates s hrun chapter hchapter)
      obtain ⟨chapters, -, hfinish⟩ := finish_of_dated (g := g) hall
      have hworks := (extract_of_run hrun).trans hfinish
      exact {
        fails_iff := by simp [readsOverlong_iff, hrun, hworks]
        cause := by simp [hworks]
        succeeds := by simp [hworks]
        supplied := hsupplied }

private def datedSite : Grammar := .lightNovel {
  id := "t"
  sourceName := "T"
  site := "https://e.com/" }

private def datedPolicy : Policy where
  now := ⟨⟨2024, 1, 10⟩, 0⟩

private def datedPage : List Event := [
  .opened "div" (.ofList [("class", "genxed")]), .opened "a" ∅,
  .text "Drama", .closed "a", .closed "div",
  .opened "div" (.ofList [("class", "eplister")]), .opened "ul" ∅, .opened "li" ∅,
  .opened "a" (.ofList [("href", "https://e.com/c1/")]),
  .opened "div" (.ofList [("class", "epl-date")]), .text "January 5, 2024", .closed "div",
  .closed "a", .closed "li", .closed "ul", .closed "div"]

theorem extract_datedPage_fails_iff :
    FailsOnOverlong datedSite datedPolicy "" datedPage ∧
      ∃ work, extract datedSite datedPolicy "" datedPage = .ok work := by
  have hdated : FailsOnOverlong datedSite datedPolicy "" datedPage := by
    refine extract_fails_iff fun s hs chapter hchapter raw hraw _ => ?_
    have hrun : (initial "").run datedSite datedPolicy datedPage = .ok {
        genres := { fragments := ["Drama"] }
        chapters := {
          records := [{ path := "c1/", releaseTime := some "January 5, 2024" }]
          endTag := "ul" }
        seen := 16 } := rfl
    obtain rfl := Except.ok.inj (hs.symm.trans hrun)
    obtain rfl := List.mem_singleton.1 hchapter
    obtain rfl := Option.some.inj hraw
    have hread : datedPolicy.dates.read (Text.trim "January 5, 2024") datedPolicy.now.date =
        .ok ⟨2024, 1, 5⟩ := rfl
    rw [hread]
    nofun
  exact ⟨hdated, _, rfl⟩

end Feuilleton
