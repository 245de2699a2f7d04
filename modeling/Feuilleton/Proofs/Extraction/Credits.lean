import Feuilleton.Proofs.Extraction.HiddenOutcome
import Feuilleton.Proofs.Extraction.Quiet

/-!
# Credits

Author, artist and status are the credits of a work. The course of an extraction does not depend on
them, and what happens to them depends on the course only through the notices that it gives: an
information block begins or ends, a text is read in it, a label ends. So a run can be followed with
the credits left out, and they can be computed from its notices afterwards.
-/

namespace Feuilleton

theorem State.personText_of_ne {content : String} (h : content ≠ "") :
    personText content = content := by
  rw [personText, if_neg (by simpa using h)]

theorem State.personText_ne_empty (content : String) : personText content ≠ "" := by
  by_cases h : content = ""
  · rw [h]
    decide
  · rwa [personText_of_ne h]

/-- A person that a work names, each with a field of its own. -/
inductive Person
  | author
  | artist
  deriving DecidableEq, Repr

def Person.field : Person → InfoField
  | author => .author
  | artist => .artist

/-- Author, artist and status, and the field for which the next text is read. -/
@[ext]
structure Credits where
  activeField : Option InfoField := none
  author : String := ""
  artist : String := ""
  status : Option Status := none
  deriving DecidableEq, Repr

/-- What the credits are told of the course of an extraction. Texts count only while a label is
being read. -/
inductive Notice
  | begun
  | statusBegun
  | read (content : String)
  | labelEnded
  | ended
  deriving DecidableEq, Repr

namespace Credits

/-! ## What a notice does -/

def name (c : Credits) : Person → String
  | .author => c.author
  | .artist => c.artist

def assign (content : String) (c : Credits) : Credits :=
  match c.activeField with
  | some .author => { c with author := c.author ++ State.personText content }
  | some .artist => { c with artist := c.artist ++ State.personText content }
  | some .status => { c with status := some (Status.ofText content) }
  | none => c

def captured (c : Credits) : Bool :=
  match c.activeField with
  | some .author => !c.author.isEmpty
  | some .artist => !c.artist.isEmpty
  | some .status => c.status.isSome
  | none => false

/-- A text is first the value of the active field and then looked up as a label. -/
def after (c : Credits) : Notice → Credits
  | .begun => { c with activeField := none }
  | .statusBegun => { c with activeField := some .status }
  | .read content => { c.assign content with
      activeField := InfoField.ofLabel? content <|> c.activeField }
  | .labelEnded => { c with activeField := if c.captured then none else c.activeField }
  | .ended => { c with
      activeField := none, author := Text.trim c.author, artist := Text.trim c.artist }

def afterAll (c : Credits) (notices : List Notice) : Credits :=
  notices.foldl after c

variable {c : Credits} {person : Person} {content : String}

@[simp] theorem afterAll_nil : c.afterAll [] = c := rfl

theorem afterAll_cons (notice : Notice) (rest : List Notice) :
    c.afterAll (notice :: rest) = (c.after notice).afterAll rest := rfl

theorem afterAll_append (first rest : List Notice) :
    c.afterAll (first ++ rest) = (c.afterAll first).afterAll rest :=
  List.foldl_append

@[simp] theorem activeField_assign : (c.assign content).activeField = c.activeField := by
  unfold assign
  split <;> rfl

/-- A name grows by the text that is read for it. -/
theorem name_assign (person : Person) : (c.assign content).name person =
    if c.activeField = some person.field then c.name person ++ State.personText content
    else c.name person := by
  unfold assign
  cases person with
  | author => split <;> simp_all [name, Person.field]
  | artist => split <;> simp_all [name, Person.field]

theorem status_assign : (c.assign content).status =
    if c.activeField = some .status then some (Status.ofText content) else c.status := by
  unfold assign
  split <;> simp_all

theorem captured_of_person (h : c.activeField = some person.field) :
    c.captured = !(c.name person).isEmpty := by
  unfold captured
  rw [h]
  cases person <;> rfl

theorem captured_of_status (h : c.activeField = some .status) : c.captured = c.status.isSome := by
  unfold captured
  rw [h]

@[simp] theorem activeField_read :
    (c.after (.read content)).activeField = (InfoField.ofLabel? content <|> c.activeField) := rfl

@[simp] theorem name_read :
    (c.after (.read content)).name person = (c.assign content).name person := by
  cases person <;> simp only [name, after]

@[simp] theorem status_read :
    (c.after (.read content)).status = (c.assign content).status := by
  simp only [after]

@[simp] theorem activeField_labelEnded :
    (c.after .labelEnded).activeField = if c.captured then none else c.activeField := rfl

@[simp] theorem name_labelEnded : (c.after .labelEnded).name person = c.name person := by
  cases person <;> rfl

@[simp] theorem status_labelEnded : (c.after .labelEnded).status = c.status := rfl

@[simp] theorem name_ended : (c.after .ended).name person = Text.trim (c.name person) := by
  cases person <;> rfl

end Credits

/-- The work with other credits, trimmed as in every finished work. -/
def Work.withCredits (c : Credits) (work : Work) : Work :=
  { work with
    author := Text.trim c.author
    artist := Text.trim c.artist
    status := c.status.getD .unknown }

namespace State

variable {g : Grammar} {p : Policy} {s t : State} {c : Credits} {n : Nat} {name content : String}
  {attributes : Attributes}

def credits (s : State) : Credits :=
  ⟨s.info.activeField, s.work.author, s.work.artist, s.work.status⟩

/-- The state with other credits, at another count of events. -/
def credited (c : Credits) (n : Nat) (s : State) : State :=
  { s with
    info := { s.info with activeField := c.activeField }
    work := { s.work with author := c.author, artist := c.artist, status := c.status }
    seen := n }

@[simp] theorem credited_mode : (s.credited c n).mode = s.mode := rfl

@[simp] theorem credited_readingLabel :
    (s.credited c n).info.readingLabel = s.info.readingLabel := rfl

@[simp] theorem credited_labelTag : (s.credited c n).info.labelTag = s.info.labelTag := rfl

@[simp] theorem credited_endTag : (s.credited c n).info.endTag = s.info.endTag := rfl

theorem credited_credits : s.credited s.credits s.seen = s := rfl

/-! ## Notices of a course -/

def noticesOpened (g : Grammar) (name : String) (attributes : Attributes) (s : State) :
    List Notice :=
  if s.mode ≠ .idle then []
  else if anyHolds g.genres.container name attributes then []
  else if anyHolds g.summary.container name attributes then []
  else if anyHolds g.info.container name attributes then [.begun]
  else if anyHolds g.info.statusContainer name attributes then [.statusBegun]
  else []

def noticesText (content : String) (s : State) : List Notice :=
  if s.mode = .info ∧ s.info.readingLabel = true then [.read content] else []

def noticesClosed (name : String) (s : State) : List Notice :=
  if s.mode ≠ .info then []
  else if s.info.readingLabel && s.info.labelTag == some name then [.labelEnded]
  else if name == s.info.endTag && (!s.info.readingLabel || s.info.labelTag.isNone) then [.ended]
  else []

def notices (g : Grammar) (s : State) : Event → List Notice
  | .opened name attributes => s.noticesOpened g name attributes
  | .text content => s.noticesText content
  | .closed name => s.noticesClosed name

/-- The notices of a run, up to the event at which it fails if it does. -/
def noticesAlong (g : Grammar) (p : Policy) : State → List Event → List Notice
  | _, [] => []
  | s, event :: events =>
      s.notices g event ++ match s.step g p event with
        | .ok t => noticesAlong g p t events
        | .error _ => []

theorem noticesAlong_cons_of_step {event : Event} (events : List Event)
    (h : s.step g p event = .ok t) :
    s.noticesAlong g p (event :: events) = s.notices g event ++ t.noticesAlong g p events := by
  rw [noticesAlong, h]

/-! ## Open tags -/

theorem captureCover_credited : (s.credited c n).captureCover g name attributes =
    (s.captureCover g name attributes).credited c n := by
  unfold captureCover
  rw [apply_ite (credited c n)]
  rfl

theorem enterRating_credited : (s.credited c n).enterRating name attributes =
    (s.enterRating name attributes).credited c n := by
  unfold enterRating
  cases readRating? (attributes.value "content") <;> rfl

theorem openIdle_credited (hm : s.mode = .idle) : (s.credited c n).openIdle g name attributes =
    (s.openIdle g name attributes).credited (c.afterAll (s.noticesOpened g name attributes)) n := by
  unfold openIdle noticesOpened
  rw [if_neg (not_not_intro hm)]
  split
  · rfl
  split
  · rfl
  split
  · rfl
  split
  · rfl
  simp only [enterRating_credited, Credits.afterAll_nil, apply_ite (credited c n)]
  rfl

theorem openGenres_credited : (s.credited c n).openGenres g name attributes =
    (s.openGenres g name attributes).credited c n := by
  unfold openGenres
  rw [apply_ite (credited c n)]
  rfl

theorem openSummary_credited : (s.credited c n).openSummary g name =
    (s.openSummary g name).credited c n := by
  unfold openSummary
  rw [apply_ite (credited c n)]
  rfl

theorem openInfo_credited : (s.credited c n).openInfo g name attributes =
    (s.openInfo g name attributes).credited c n := by
  unfold openInfo
  rw [apply_ite (credited c n)]
  rfl

theorem openChapters_credited : (s.credited c n).openChapters g name attributes =
    (s.openChapters g name attributes).credited c n := by
  unfold openChapters openItem
  rw [show (s.credited c n).chapters = s.chapters from rfl]
  cases s.chapters.draft with
  | none =>
      simp only [apply_ite (credited c n)]
      rfl
  | some draft =>
      simp only [apply_ite (credited c n)]
      cases cellOf? g name attributes <;> rfl

theorem stepOpened_credited : (s.credited c n).stepOpened g name attributes =
    (s.stepOpened g name attributes).credited
      (c.afterAll (s.noticesOpened g name attributes)) n := by
  have hmode : (s.captureCover g name attributes).mode = s.mode := mode_captureCover
  have hnotices : s.noticesOpened g name attributes =
      (s.captureCover g name attributes).noticesOpened g name attributes := by
    simp only [noticesOpened, hmode]
  unfold stepOpened
  simp only [captureCover_credited, credited_mode, hnotices]
  generalize s.captureCover g name attributes = d
  cases hm : d.mode with
  | idle => exact openIdle_credited hm
  | title => simp [noticesOpened, hm]
  | rating => simp [noticesOpened, hm]
  | genres => simp [noticesOpened, hm, openGenres_credited]
  | summary => simp [noticesOpened, hm, openSummary_credited]
  | info => simp [noticesOpened, hm, openInfo_credited]
  | chapters => simp [noticesOpened, hm, openChapters_credited]

/-! ## Texts -/

theorem textGenres_credited : (s.credited c n).textGenres content =
    (s.textGenres content).credited c n := by
  unfold textGenres
  rw [apply_ite (credited c n)]
  rfl

theorem textSummary_credited : (s.credited c n).textSummary content =
    (s.textSummary content).credited c n := by
  unfold textSummary
  rw [apply_ite (credited c n)]
  rfl

theorem assignInfo_eq_credits (content : String) (s : State) :
    assignInfo content s.work s.info.activeField = { s.work with
      author := (s.credits.assign content).author
      artist := (s.credits.assign content).artist
      status := (s.credits.assign content).status } := by
  unfold Credits.assign credits
  rcases s.info.activeField with _ | _ | _ | _ <;> rfl

/-- In an information block a text changes the credits alone. -/
theorem textInfo_eq (hm : s.mode = .info) :
    s.textInfo content = s.credited (s.credits.afterAll (s.noticesText content)) s.seen := by
  unfold textInfo noticesText
  cases hreading : s.info.readingLabel with
  | false => simp [credited_credits]
  | true =>
      rw [if_pos rfl, if_pos ⟨hm, rfl⟩, assignInfo_eq_credits, Credits.afterAll_cons,
        Credits.afterAll_nil, credited, Credits.after]
      rfl

theorem textInfo_credited (hm : s.mode = .info) : (s.credited c n).textInfo content =
    (s.textInfo content).credited (c.afterAll (s.noticesText content)) n := by
  rw [textInfo_eq hm, textInfo_eq (s := s.credited c n) hm]
  rfl

theorem step_text_info (hm : s.mode = .info) : s.step g p (.text content) =
    .ok (s.credited (s.credits.afterAll (s.noticesText content)) (s.seen + 1)) := by
  have hmode : s.count.mode = .info := hm
  simp only [step, stepText, hmode, textInfo_eq hmode]
  rfl

theorem textChapters_credited : (s.credited c n).textChapters g content =
    (s.textChapters g content).map (credited c n) := by
  unfold textChapters
  rw [show (s.credited c n).chapters = s.chapters from rfl,
    show (s.credited c n).work.name = s.work.name from rfl]
  cases s.chapters.draft with
  | none => rfl
  | some draft =>
      cases s.chapters.activeCell with
      | none => rfl
      | some cell =>
          simp only
          cases cellText g s.work.name content s.chapters draft cell <;> rfl

theorem stepText_credited : (s.credited c n).stepText g content =
    (s.stepText g content).map (credited (c.afterAll (s.noticesText content)) n) := by
  unfold stepText
  rw [credited_mode]
  cases hm : s.mode with
  | idle => simp [noticesText, hm, Except.map]
  | title => simp [noticesText, hm, Except.map]; rfl
  | rating => simp [noticesText, hm, Except.map]; rfl
  | genres => simp [noticesText, hm, Except.map, textGenres_credited]
  | summary => simp [noticesText, hm, Except.map, textSummary_credited]
  | info => exact congrArg Except.ok (textInfo_credited hm)
  | chapters => simp [noticesText, hm, textChapters_credited]

/-! ## Close tags -/

theorem closeTitle_credited : (s.credited c n).closeTitle name =
    (s.closeTitle name).credited c n := by
  unfold closeTitle
  rw [apply_ite (credited c n)]
  rfl

theorem closeRating_credited : (s.credited c n).closeRating name =
    (s.closeRating name).credited c n := by
  unfold closeRating
  rw [apply_ite (credited c n)]
  rfl

theorem closeGenres_credited : (s.credited c n).closeGenres name =
    (s.closeGenres name).credited c n := by
  unfold closeGenres
  rw [show (s.credited c n).genres = s.genres from rfl]
  cases s.genres.readingTag with
  | none => rfl
  | some tag =>
      simp only [apply_ite (credited c n)]
      rfl

theorem closeSummary_credited : (s.credited c n).closeSummary g name =
    (s.closeSummary g name).credited c n := by
  unfold closeSummary
  simp only [apply_ite (credited c n)]
  rfl

theorem closeInfo_credited (hm : s.mode = .info) : (s.credited c n).closeInfo name =
    (s.closeInfo name).credited (c.afterAll (s.noticesClosed name)) n := by
  unfold closeInfo noticesClosed
  rw [if_neg (not_not_intro hm), credited_readingLabel, credited_labelTag, credited_endTag]
  split
  · rfl
  split <;> rfl

theorem closeChapters_credited : (s.credited c n).closeChapters g p name =
    (s.closeChapters g p name).credited c n := by
  unfold closeChapters
  rw [show (s.credited c n).chapters = s.chapters from rfl]
  cases s.chapters.draft with
  | none =>
      simp only [apply_ite (credited c n)]
      rfl
  | some draft =>
      simp only [apply_ite (credited c n)]
      rfl

theorem stepClosed_credited : (s.credited c n).stepClosed g p name =
    (s.stepClosed g p name).credited (c.afterAll (s.noticesClosed name)) n := by
  unfold stepClosed
  rw [credited_mode]
  cases hm : s.mode with
  | idle => simp [noticesClosed, hm]
  | title => simp [noticesClosed, hm, closeTitle_credited]
  | rating => simp [noticesClosed, hm, closeRating_credited]
  | genres => simp [noticesClosed, hm, closeGenres_credited]
  | summary => simp [noticesClosed, hm, closeSummary_credited]
  | info => exact closeInfo_credited hm
  | chapters => simp [noticesClosed, hm, closeChapters_credited]

/-! ## Runs -/

theorem step_credited (event : Event) : (s.credited c n).step g p event =
    (s.step g p event).map (credited (c.afterAll (s.notices g event)) (n + 1)) := by
  have hcount : (s.credited c n).count = s.count.credited c (n + 1) := rfl
  cases event with
  | opened name attributes =>
      simp only [step, hcount, stepOpened_credited, Except.map]
      rfl
  | text content =>
      simp only [step, hcount, stepText_credited]
      rfl
  | closed name =>
      simp only [step, hcount, stepClosed_credited, Except.map]
      rfl

/-- With other credits a run takes the same course, and gives the same notices. -/
theorem run_credited (events : List Event) : (s.credited c n).run g p events =
    (s.run g p events).map
      (credited (c.afterAll (s.noticesAlong g p events)) (n + events.length)) := by
  induction events generalizing s c n with
  | nil => rfl
  | cons event events ih =>
      rw [run_cons, run_cons, step_credited]
      cases hstep : s.step g p event with
      | error tooLong => rfl
      | ok t =>
          rw [noticesAlong_cons_of_step events hstep, Credits.afterAll_append, List.length_cons,
            Nat.add_comm events.length, ← Nat.add_assoc]
          exact ih

theorem credits_of_step {event : Event} (h : s.step g p event = .ok t) :
    t.credits = s.credits.afterAll (s.notices g event) := by
  have hstep := step_credited (g := g) (p := p) (s := s) (c := s.credits) (n := s.seen) event
  rw [credited_credits, h] at hstep
  exact congrArg credits (Except.ok.inj hstep)

/-- The credits of a run are those of its notices. -/
theorem credits_of_run {events : List Event} (h : s.run g p events = .ok t) :
    t.credits = s.credits.afterAll (s.noticesAlong g p events) := by
  have hrun := run_credited (g := g) (p := p) (s := s) (c := s.credits) (n := s.seen) events
  rw [credited_credits, h] at hrun
  exact congrArg credits (Except.ok.inj hrun)

theorem finish_credited :
    (s.credited c n).finish g p = (s.finish g p).map (Work.withCredits c) := by
  unfold finish
  rw [toWork_eq_map, toWork_eq_map]
  rw [show (s.credited c n).settledChapters g p = s.settledChapters g p from rfl]
  cases s.settledChapters g p <;> rfl

end State

end Feuilleton
