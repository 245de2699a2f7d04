import Feuilleton.Proofs.Extraction.Quiet

/-!
# Parts of a page

Genres, summary, information block and chapter list are read apart from each other. What is read
and written in one part stays within that part of the state; of the rest only the name of the work
is read, by the chapter list.
-/

namespace Feuilleton

inductive Part
  | genres
  | summary
  | info
  | chapters
  deriving DecidableEq, Repr

def Part.mode : Part → Mode
  | genres => .genres
  | summary => .summary
  | info => .info
  | chapters => .chapters

def Mode.part? : Mode → Option Part
  | genres => some .genres
  | summary => some .summary
  | info => some .info
  | chapters => some .chapters
  | idle | title | rating => none

theorem Part.part?_mode (part : Part) : part.mode.part? = some part := by
  cases part <;> rfl

theorem Mode.eq_of_part? {mode : Mode} {part : Part} (h : mode.part? = some part) :
    mode = part.mode := by
  cases mode <;> cases h <;> rfl

variable {g : Grammar} {p : Policy} {part other : Part} {s t u r : State} {k m n : Nat}
  {name content : String} {attributes : Attributes} {events : List Event}

/-- The part of a page that a tag begins. -/
def partOf? (g : Grammar) (name : String) (attributes : Attributes) : Option Part :=
  if anyHolds g.genres.container name attributes then some .genres
  else if anyHolds g.summary.container name attributes then some .summary
  else if anyHolds g.info.container name attributes ||
      anyHolds g.info.statusContainer name attributes then some .info
  else if anyHolds g.chapters.container name attributes then some .chapters
  else none

namespace State

/-! ## Beginning a part -/

/-- Whatever is known already, a tag begins the same part. -/
theorem part?_openIdle (name : String) (attributes : Attributes) (hm : s.mode = .idle) :
    (s.openIdle g name attributes).mode.part? = partOf? g name attributes := by
  unfold openIdle partOf?
  split
  · rfl
  split
  · rfl
  cases hinfo : anyHolds g.info.container name attributes with
  | true => rfl
  | false =>
      simp only [Bool.false_eq_true, ↓reduceIte, Bool.false_or]
      split
      · rfl
      split
      · rfl
      split
      · rfl
      split
      · unfold enterRating
        split
        · simp [hm, Mode.part?]
        · rfl
      · simp [hm, Mode.part?]

theorem part?_stepOpened (name : String) (attributes : Attributes) (hm : s.mode = .idle) :
    (s.stepOpened g name attributes).mode.part? = partOf? g name attributes := by
  have hcaptured : (s.captureCover g name attributes).mode = .idle := mode_captureCover.trans hm
  rw [← part?_openIdle name attributes hcaptured]
  simp only [stepOpened, hcaptured]

theorem partOf?_of_step (hm : s.mode = .idle)
    (h : s.step g p (.opened name attributes) = .ok t) :
    partOf? g name attributes = t.mode.part? := by
  cases h
  exact (part?_stepOpened (s := s.count) name attributes hm).symm

theorem openIdle_of_summary (h : partOf? g name attributes = some .summary) :
    anyHolds g.summary.container name attributes = true ∧
      s.openIdle g name attributes = s.enterSummary name := by
  unfold partOf? at h
  split at h
  · cases h
  split at h
  · rename_i hgenres hsummary
    refine ⟨hsummary, ?_⟩
    unfold openIdle
    rw [if_neg hgenres, if_pos hsummary]
  split at h
  · cases h
  split at h <;> cases h

/-! ## Grafts -/

/-- `r` with the part, the mode and a count of its own taken from `s`. -/
def graft (part : Part) (r : State) (seen : Nat) (s : State) : State :=
  match part with
  | .genres => { r with mode := s.mode, genres := s.genres, seen }
  | .summary => { r with
      mode := s.mode
      summary := s.summary
      work := { r.work with summary := s.work.summary }
      seen }
  | .info => { r with
      mode := s.mode
      info := s.info
      work := { r.work with
        author := s.work.author, artist := s.work.artist, status := s.work.status }
      seen }
  | .chapters => { r with mode := s.mode, chapters := s.chapters, seen }

@[simp] theorem graft_mode : (graft part r n s).mode = s.mode := by
  cases part <;> rfl

@[simp] theorem graft_name : (graft part r n s).work.name = r.work.name := by
  cases part <;> rfl

@[simp] theorem graft_seen : (graft part r n s).seen = n := by
  cases part <;> rfl

@[simp] theorem graft_cover : (graft part r n s).work.cover = r.work.cover := by
  cases part <;> rfl

@[simp] theorem graft_rating : (graft part r n s).work.rating = r.work.rating := by
  cases part <;> rfl

theorem graft_self : graft part s s.seen s = s := by
  cases part <;> rfl

theorem graft_other (hne : part ≠ other) (hm : t.mode = s.mode) :
    graft other (graft part s n t) n s = graft part s n t := by
  cases part <;> cases other <;> first | contradiction | simp [graft, hm]

theorem graft_comm (hne : part ≠ other) (hm : t.mode = u.mode) :
    graft other (graft part s k t) n u = graft part (graft other s m u) n t := by
  cases part <;> cases other <;> first | contradiction | simp [graft, hm]

theorem count_graft : (graft part r n s).count = graft part r (n + 1) s.count := by
  cases part <;> rfl

theorem openGenres_graft : (graft .genres r n s).openGenres g name attributes =
    graft .genres r n (s.openGenres g name attributes) := by
  unfold openGenres
  rw [apply_ite (graft .genres r n)]
  rfl

theorem textGenres_graft : (graft .genres r n s).textGenres content =
    graft .genres r n (s.textGenres content) := by
  unfold textGenres
  rw [apply_ite (graft .genres r n)]
  rfl

theorem closeGenres_graft : (graft .genres r n s).closeGenres name =
    graft .genres r n (s.closeGenres name) := by
  unfold closeGenres
  rw [show (graft .genres r n s).genres = s.genres from rfl]
  cases s.genres.readingTag with
  | none => rfl
  | some tag =>
      simp only [apply_ite (graft .genres r n)]
      rfl

theorem openSummary_graft : (graft .summary r n s).openSummary g name =
    graft .summary r n (s.openSummary g name) := by
  unfold openSummary
  rw [apply_ite (graft .summary r n)]
  rfl

theorem textSummary_graft : (graft .summary r n s).textSummary content =
    graft .summary r n (s.textSummary content) := by
  unfold textSummary
  rw [apply_ite (graft .summary r n)]
  rfl

theorem closeSummary_graft : (graft .summary r n s).closeSummary g name =
    graft .summary r n (s.closeSummary g name) := by
  unfold closeSummary
  simp only [apply_ite (graft .summary r n)]
  rfl

theorem openInfo_graft : (graft .info r n s).openInfo g name attributes =
    graft .info r n (s.openInfo g name attributes) := by
  unfold openInfo
  rw [apply_ite (graft .info r n)]
  rfl

theorem textInfo_graft : (graft .info r n s).textInfo content =
    graft .info r n (s.textInfo content) := by
  unfold textInfo
  rw [apply_ite (graft .info r n)]
  rcases h : s.info.activeField with _ | _ | _ | _ <;> simp [graft, h, assignInfo]

theorem closeInfo_graft : (graft .info r n s).closeInfo name =
    graft .info r n (s.closeInfo name) := by
  unfold closeInfo
  simp only [apply_ite (graft .info r n)]
  rfl

theorem openChapters_graft : (graft .chapters r n s).openChapters g name attributes =
    graft .chapters r n (s.openChapters g name attributes) := by
  unfold openChapters openItem
  rw [show (graft .chapters r n s).chapters = s.chapters from rfl]
  cases s.chapters.draft with
  | none =>
      simp only [apply_ite (graft .chapters r n)]
      rfl
  | some draft =>
      simp only [apply_ite (graft .chapters r n)]
      cases cellOf? g name attributes <;> rfl

theorem textChapters_graft (hname : r.work.name = s.work.name) :
    (graft .chapters r n s).textChapters g content =
      (s.textChapters g content).map (graft .chapters r n) := by
  unfold textChapters
  rw [show (graft .chapters r n s).chapters = s.chapters from rfl, graft_name, hname]
  cases s.chapters.draft with
  | none => rfl
  | some draft =>
      cases s.chapters.activeCell with
      | none => rfl
      | some cell =>
          simp only
          cases cellText g s.work.name content s.chapters draft cell <;> rfl

theorem closeChapters_graft : (graft .chapters r n s).closeChapters g p name =
    graft .chapters r n (s.closeChapters g p name) := by
  unfold closeChapters
  rw [show (graft .chapters r n s).chapters = s.chapters from rfl]
  cases s.chapters.draft with
  | none =>
      simp only [apply_ite (graft .chapters r n)]
      rfl
  | some draft =>
      simp only [apply_ite (graft .chapters r n)]
      rfl

/-! ## Steps of a graft -/

theorem openIdle_graft (h : partOf? g name attributes = some part) :
    (graft part r n s).openIdle g name attributes =
      graft part r n (s.openIdle g name attributes) := by
  unfold partOf? at h
  unfold openIdle
  split at h
  · rename_i hgenres
    cases h
    simp only [hgenres, ↓reduceIte]
    rfl
  split at h
  · rename_i hgenres hsummary
    cases h
    simp only [hgenres, hsummary, ↓reduceIte]
    rfl
  split at h
  · rename_i hgenres hsummary hinfo
    cases h
    rcases Bool.or_eq_true_iff.1 hinfo with hcontainer | hstatus
    · simp only [hgenres, hsummary, hcontainer, ↓reduceIte]
      rfl
    · simp only [hgenres, hsummary, hstatus, ↓reduceIte, apply_ite (graft .info r n)]
      rfl
  split at h
  · rename_i hgenres hsummary hinfo hchapters
    cases h
    rw [Bool.or_eq_true, not_or] at hinfo
    simp only [hgenres, hsummary, hinfo.1, hinfo.2, hchapters, ↓reduceIte]
    rfl
  · cases h

/-- No other part is being read. -/
def Within (part : Part) (s : State) : Prop :=
  s.mode = .idle ∨ s.mode = part.mode

theorem Within.of_stays (h : Within part s) (hstays : Stays s t) : Within part t := by
  rcases hstays with hsame | hidle
  · rcases h with h | h
    · exact .inl (hsame.trans h)
    · exact .inr (hsame.trans h)
  · exact .inl hidle

theorem stepOpened_graft (hs : Within part s) (hquiet : Quiet g name attributes) :
    (graft part r n s).stepOpened g name attributes =
      graft part r n (s.stepOpened g name attributes) := by
  unfold stepOpened
  rw [captureCover_of_not_image hquiet.cover, captureCover_of_not_image hquiet.cover]
  simp only [graft_mode]
  rcases hs with hm | hm
  · simp only [hm, openIdle_of_quiet hquiet]
  · rw [hm]
    cases part with
    | genres => exact openGenres_graft
    | summary => exact openSummary_graft
    | info => exact openInfo_graft
    | chapters => exact openChapters_graft

theorem stepText_graft (hs : Within part s) (hname : r.work.name = s.work.name) :
    (graft part r n s).stepText g content = (s.stepText g content).map (graft part r n) := by
  unfold stepText
  rw [graft_mode]
  rcases hs with hm | hm
  · rw [hm]
    rfl
  · rw [hm]
    cases part with
    | genres => exact congrArg Except.ok textGenres_graft
    | summary => exact congrArg Except.ok textSummary_graft
    | info => exact congrArg Except.ok textInfo_graft
    | chapters => exact textChapters_graft hname

theorem stepClosed_graft (hs : Within part s) :
    (graft part r n s).stepClosed g p name = graft part r n (s.stepClosed g p name) := by
  unfold stepClosed
  rw [graft_mode]
  rcases hs with hm | hm
  · rw [hm]
  · rw [hm]
    cases part with
    | genres => exact closeGenres_graft
    | summary => exact closeSummary_graft
    | info => exact closeInfo_graft
    | chapters => exact closeChapters_graft

/-- Quiet events read and write their part alone: on a graft they do what they do on the state from
which it was taken. -/
theorem step_graft {event : Event} (hs : Within part s) (hname : r.work.name = s.work.name)
    (hquiet : event.Quiet g) :
    (graft part r n s).step g p event = (s.step g p event).map (graft part r (n + 1)) := by
  cases event with
  | opened name attributes =>
      simp only [step, count_graft, Except.map]
      exact congrArg Except.ok (stepOpened_graft (s := s.count) hs hquiet)
  | text content =>
      simp only [step, count_graft]
      exact stepText_graft (s := s.count) hs hname
  | closed name =>
      simp only [step, count_graft, Except.map]
      exact congrArg Except.ok (stepClosed_graft (s := s.count) hs)

/-! ## Runs -/

theorem step_frame {event : Event} (hs : Within part s) (hquiet : event.Quiet g)
    (h : s.step g p event = .ok t) : t = graft part s (s.seen + 1) t := by
  have hgraft := step_graft (p := p) (r := s) (n := s.seen) hs rfl hquiet
  rw [graft_self, h] at hgraft
  exact Except.ok.inj hgraft

theorem run_graft (hs : Within part s) (hname : r.work.name = s.work.name)
    (hquiet : ∀ event ∈ events, event.Quiet g) :
    (graft part r n s).run g p events =
      (s.run g p events).map (graft part r (n + events.length)) := by
  induction events generalizing s n with
  | nil => rfl
  | cons event events ih =>
      obtain ⟨hevent, hevents⟩ := List.forall_mem_cons.1 hquiet
      rw [run_cons, run_cons, step_graft hs hname hevent]
      cases hstep : s.step g p event with
      | error tooLong => rfl
      | ok t =>
          have hnext : t.work.name = s.work.name := by
            rw [step_frame hs hevent hstep, graft_name]
          have hrest := ih (n := n + 1) (hs.of_stays (Stays.of_step hevent hstep))
            (hname.trans hnext.symm) hevents
          rw [List.length_cons, Nat.add_comm events.length, ← Nat.add_assoc]
          exact hrest

end State

end Feuilleton
