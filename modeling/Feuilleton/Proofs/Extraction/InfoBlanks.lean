import Feuilleton.Grammar.Theme
import Feuilleton.Proofs.Extraction.Credits
import Feuilleton.Proofs.Extraction.Growth
import Feuilleton.Proofs.Extraction.ListCourse
import Feuilleton.Proofs.Text.Ink

/-!
# Blank texts in the information block

Between its tags a page has blank texts, which the information block reads as it reads every other
text. Behind a piece of a name such a text adds blanks to the name. In the place of a name it is a
name, so that the end of the label drops the field before the true name comes. And as a status it is
the unknown one, whatever status was found before.
-/

namespace Feuilleton

namespace Credits

variable {c d : Credits} {person : Person} {blank content : String}

/-! ## Credits up to blanks -/

structure SameInk (c d : Credits) : Prop where
  activeField_eq : c.activeField = d.activeField
  name : ∀ person, Text.SameInk (c.name person) (d.name person)
  status_eq : c.status = d.status

namespace SameInk

theorem refl (c : Credits) : c.SameInk c where
  activeField_eq := rfl
  name := fun _ => .refl _
  status_eq := rfl

theorem assign (h : c.SameInk d) (content : String) :
    (c.assign content).SameInk (d.assign content) where
  activeField_eq := by rw [activeField_assign, activeField_assign, h.activeField_eq]
  name := by
    intro person
    rw [name_assign, name_assign, h.activeField_eq]
    split
    · exact (h.name person).append _
    · exact h.name person
  status_eq := by rw [status_assign, status_assign, h.activeField_eq, h.status_eq]

theorem captured_eq (h : c.SameInk d) : c.captured = d.captured := by
  have hauthor : c.author.isEmpty = d.author.isEmpty := (h.name .author).isEmpty_eq
  have hartist : c.artist.isEmpty = d.artist.isEmpty := (h.name .artist).isEmpty_eq
  unfold captured
  rw [h.activeField_eq, hauthor, hartist, h.status_eq]

theorem after (h : c.SameInk d) (notice : Notice) : (c.after notice).SameInk (d.after notice) := by
  cases notice with
  | begun => exact ⟨rfl, h.name, h.status_eq⟩
  | statusBegun => exact ⟨rfl, h.name, h.status_eq⟩
  | read content =>
      have hassigned := h.assign content
      constructor
      · rw [activeField_read, activeField_read, h.activeField_eq]
      · intro person
        rw [name_read, name_read]
        exact hassigned.name person
      · rw [status_read, status_read]
        exact hassigned.status_eq
  | labelEnded =>
      refine ⟨?_, h.name, h.status_eq⟩
      rw [activeField_labelEnded, activeField_labelEnded, h.captured_eq, h.activeField_eq]
  | ended =>
      refine ⟨rfl, fun person => ?_, h.status_eq⟩
      rw [name_ended, name_ended]
      exact (h.name person).trim

theorem afterAll (h : c.SameInk d) (notices : List Notice) :
    (c.afterAll notices).SameInk (d.afterAll notices) := by
  induction notices generalizing c d with
  | nil => exact h
  | cons notice notices ih => exact ih (h.after notice)

end SameInk

/-- A blank text read now adds blanks to a name, or nothing. -/
structure AdmitsBlank (c : Credits) : Prop where
  name : ∀ person : Person, c.activeField = some person.field → c.name person ≠ ""
  status : c.activeField = some .status → c.status = some .unknown

theorem after_read_of_isBlankText (hblank : Text.isBlankText blank = true) :
    c.after (.read blank) = c.assign blank := by
  rw [after, InfoField.ofLabel?_of_isBlankText hblank]
  ext1
  · simp
  · rfl
  · rfl
  · rfl

theorem AdmitsBlank.sameInk (h : c.AdmitsBlank) (hblank : Text.isBlankText blank = true)
    (hne : blank ≠ "") : c.SameInk (c.assign blank) where
  activeField_eq := activeField_assign.symm
  name := by
    intro person
    rw [name_assign, State.personText_of_ne hne]
    split
    · rename_i hfield
      exact .append_blank (h.name person hfield) hblank
    · exact .refl _
  status_eq := by
    rw [status_assign, Status.ofText_of_isBlankText hblank]
    split
    · rename_i hfield
      exact h.status hfield
    · rfl

/-! ## Credits that differ by more -/

/-- Finished works show the same names up to blanks, and the same status. -/
structure ShowAlike (c d : Credits) : Prop where
  name : ∀ person, Text.ink (c.name person) = Text.ink (d.name person)
  status : c.status.getD .unknown = d.status.getD .unknown

theorem SameInk.showAlike (h : c.SameInk d) : c.ShowAlike d where
  name := fun person => (h.name person).ink_eq
  status := by rw [h.status_eq]

/-- A label ends, and in the next one the name of a status is read. -/
def probe : List Notice := [.labelEnded, .read "Ongoing"]

theorem name_probe (h : c.activeField = some person.field) : (c.afterAll probe).name person =
    if c.name person = "" then "Ongoing" else c.name person := by
  rw [probe, afterAll_cons, afterAll_cons, afterAll_nil, name_read, name_assign, name_labelEnded,
    activeField_labelEnded, captured_of_person h, h]
  by_cases hname : c.name person = ""
  · simp [hname, State.personText]
  · simp [hname]

theorem status_probe (h : c.activeField = some .status) : (c.afterAll probe).status =
    c.status.or (some .ongoing) := by
  have hongoing : Status.ofText "Ongoing" = .ongoing := by decide +kernel
  rw [probe, afterAll_cons, afterAll_cons, afterAll_nil, status_read, status_assign,
    status_labelEnded, activeField_labelEnded, captured_of_status h, h, hongoing]
  cases c.status <;> rfl

/-- Where a blank text counts as the value of a field, the text of the next label tells. -/
theorem not_showAlike_probe (h : ¬c.AdmitsBlank) (hblank : Text.isBlankText blank = true)
    (hne : blank ≠ "") : ¬(c.afterAll probe).ShowAlike ((c.assign blank).afterAll probe) := by
  have hink : Text.ink blank = [] := Text.ink_eq_nil_iff.2 hblank
  intro halike
  refine h ⟨fun person hfield hname => ?_, fun hfield => ?_⟩
  · have hread : (c.assign blank).name person = blank := by
      rw [name_assign, if_pos hfield, hname, State.personText_of_ne hne, String.empty_append]
    have hshown := halike.name person
    rw [name_probe hfield, name_probe (activeField_assign.trans hfield), hread, if_pos hname,
      if_neg hne, hink] at hshown
    exact absurd hshown (by decide)
  · have hread : (c.assign blank).status = some .unknown := by
      rw [status_assign, if_pos hfield, Status.ofText_of_isBlankText hblank]
    have hshown := halike.status
    rw [status_probe hfield, status_probe (activeField_assign.trans hfield), hread] at hshown
    cases hstatus : c.status with
    | none => simp [hstatus] at hshown
    | some status => simpa [hstatus] using hshown

end Credits

/-! ## Works up to blanks -/

/-- Both extractions fail alike, or their works are the same up to blanks in the names. -/
inductive SameButBlanks :
    Except ExtractionError Work → Except ExtractionError Work → Prop
  | error (e : ExtractionError) : SameButBlanks (.error e) (.error e)
  | ok {work : Work} {author artist : String} : Text.ink work.author = Text.ink author →
      Text.ink work.artist = Text.ink artist →
      SameButBlanks (.ok work) (.ok { work with author, artist })

/-- Whatever follows on `events`, a text between the two shows at most as blanks in the names. -/
def IsNeutral (g : Grammar) (p : Policy) (path : String) (events : List Event) (content : String) :
    Prop :=
  ∀ rest, SameButBlanks (extract g p path (events ++ rest))
    (extract g p path (events ++ .text content :: rest))

theorem sameButBlanks_withCredits_iff {work : Work} {c d : Credits}
    (h : work.withCredits c = work) :
    SameButBlanks (.ok work) (.ok (work.withCredits d)) ↔ c.ShowAlike d := by
  have hauthor : Text.ink work.author = Text.ink c.author := by
    rw [← h, Work.withCredits, Text.ink_trim]
  have hartist : Text.ink work.artist = Text.ink c.artist := by
    rw [← h, Work.withCredits, Text.ink_trim]
  have hstatus : work.status = c.status.getD .unknown := by
    rw [← h, Work.withCredits]
  constructor
  · intro hsame
    generalize hother : work.withCredits d = other at hsame
    cases hsame with
    | @ok _ author artist hauthors hartists =>
        have hauthor' : Text.trim d.author = author := congrArg Work.author hother
        have hartist' : Text.trim d.artist = artist := congrArg Work.artist hother
        have hstatus' : d.status.getD .unknown = work.status := congrArg Work.status hother
        rw [← hauthor', Text.ink_trim, hauthor] at hauthors
        rw [← hartist', Text.ink_trim, hartist] at hartists
        refine ⟨fun person => ?_, hstatus.symm.trans hstatus'.symm⟩
        cases person with
        | author => exact hauthors
        | artist => exact hartists
  · intro halike
    have hauthors := halike.name .author
    have hartists := halike.name .artist
    rw [Work.withCredits, ← halike.status, ← hstatus]
    refine .ok ?_ ?_
    · rw [Text.ink_trim, hauthor]
      exact hauthors
    · rw [Text.ink_trim, hartist]
      exact hartists

namespace State

variable {g : Grammar} {p : Policy} {s t : State} {path name blank content : String}
  {attributes : Attributes} {events rest : List Event}

/-! ## A text between two parts of a page -/

theorem extract_append_text (hs : (initial path).run g p events = .ok s) (hm : s.mode = .info)
    (content : String) (rest : List Event) :
    extract g p path (events ++ .text content :: rest) =
      (extract g p path (events ++ rest)).map (Work.withCredits
        ((s.credits.afterAll (s.noticesText content)).afterAll (s.noticesAlong g p rest))) := by
  unfold extract
  rw [run_append_of_run _ hs, run_append_of_run _ hs, run_cons_of_step _ (step_text_info hm),
    run_credited]
  cases s.run g p rest with
  | error tooLong => rfl
  | ok u => exact finish_credited

theorem withCredits_of_extract {work : Work} (hs : (initial path).run g p events = .ok s)
    (h : extract g p path (events ++ rest) = .ok work) :
    work.withCredits (s.credits.afterAll (s.noticesAlong g p rest)) = work := by
  obtain ⟨u, hu, hfinish⟩ := exists_of_extract_eq_ok h
  rw [run_append_of_run _ hs] at hu
  rw [← credits_of_run hu]
  have hcredited := finish_credited (g := g) (p := p) (s := u) (c := u.credits) (n := u.seen)
  rw [credited_credits, hfinish] at hcredited
  exact (Except.ok.inj hcredited).symm

theorem sameButBlanks_append_text_iff (hs : (initial path).run g p events = .ok s)
    (hm : s.mode = .info) :
    SameButBlanks (extract g p path (events ++ rest))
        (extract g p path (events ++ .text content :: rest)) ↔
      ((extract g p path (events ++ rest)).isOk = true →
        (s.credits.afterAll (s.noticesAlong g p rest)).ShowAlike
          ((s.credits.afterAll (s.noticesText content)).afterAll (s.noticesAlong g p rest))) := by
  rw [extract_append_text hs hm]
  cases h : extract g p path (events ++ rest) with
  | error e => simp [Except.map, SameButBlanks.error, Except.isOk, Except.toBool]
  | ok work =>
      have hiff := sameButBlanks_withCredits_iff (withCredits_of_extract hs h)
        (d := (s.credits.afterAll (s.noticesText content)).afterAll (s.noticesAlong g p rest))
      simpa [Except.map, Except.isOk, Except.toBool] using hiff

/-- A page that is extracted to its end is extracted up to each of its events. -/
theorem isOk_extract_of_append (h : (extract g p path (events ++ rest)).isOk = true) :
    (extract g p path events).isOk = true := by
  cases hwhole : extract g p path (events ++ rest) with
  | error e => simp [hwhole, Except.isOk, Except.toBool] at h
  | ok whole =>
      obtain ⟨u, hu, hfinish⟩ := exists_of_extract_eq_ok hwhole
      obtain ⟨s, hs, hrest⟩ := run_append_eq_ok hu
      have hextends := ((coherent_initial path).run hs).extends_run hrest
      have hwholeDated : u.chapters.records.all (isDated p.dates p.now) = true := by
        cases hall : u.chapters.records.all (isDated p.dates p.now) with
        | true => rfl
        | false =>
            rw [finish_of_undated hall] at hfinish
            cases hfinish
      have hdated : s.chapters.records.all (isDated p.dates p.now) = true := by
        rw [List.all_eq_true] at hwholeDated ⊢
        exact fun chapter hchapter => hwholeDated chapter (hextends.chapters.subset hchapter)
      obtain ⟨_, -, hfinished⟩ := finish_of_dated (g := g) hdated
      rw [extract_of_run hs, hfinished]
      rfl

theorem isOk_finish_congr (h : t.chapters = s.chapters) :
    (t.finish g p).isOk = (s.finish g p).isOk := by
  have hchapters : t.settledChapters g p = s.settledChapters g p := by
    rw [settledChapters, settledChapters, h]
  unfold finish
  rw [toWork_eq_map, toWork_eq_map, hchapters]
  cases s.settledChapters g p <;> rfl

/-! ## Labels -/

structure AtLabel (name : String) (s : State) : Prop where
  mode : s.mode = .info
  readingLabel : s.info.readingLabel = true
  labelTag : s.info.labelTag = some name

theorem exists_labelOpened (hm : s.mode = .info)
    (hlabel : anyHolds g.info.label name attributes = true) :
    ∃ t, s.step g p (.opened name attributes) = .ok t ∧ t.AtLabel name ∧
      t.chapters = s.chapters ∧ s.notices g (.opened name attributes) = [] := by
  have hcount : s.count.mode = .info := hm
  have hmode : (s.count.captureCover g name attributes).mode = .info :=
    mode_captureCover.trans hm
  refine ⟨_, rfl, ⟨?_, ?_, ?_⟩, ?_, ?_⟩
  · simp [stepOpened, hmode, openInfo, hlabel]
  · simp [stepOpened, hmode, openInfo, hlabel]
  · simp [stepOpened, hmode, openInfo, hlabel]
  · rw [chapters_stepOpened, hcount]
    rfl
  · simp [notices, noticesOpened, hm]

theorem AtLabel.exists_closed (h : s.AtLabel name) :
    ∃ t, s.step g p (.closed name) = .ok t ∧ t.mode = .info ∧ t.chapters = s.chapters ∧
      s.notices g (.closed name) = [.labelEnded] := by
  have hmode : s.count.mode = .info := h.mode
  have hreading : s.count.info.readingLabel = true := h.readingLabel
  have htag : s.count.info.labelTag = some name := h.labelTag
  refine ⟨_, rfl, ?_, ?_, ?_⟩
  · simp [stepClosed, hmode, closeInfo, hreading, htag]
  · exact chapters_stepClosed (s := s.count) (by simp [hmode])
  · simp [notices, noticesClosed, h.mode, h.readingLabel, h.labelTag]

theorem AtLabel.exists_text (h : s.AtLabel name) (content : String) :
    ∃ t, s.step g p (.text content) = .ok t ∧ t.chapters = s.chapters ∧
      s.notices g (.text content) = [.read content] :=
  ⟨_, step_text_info h.mode, rfl, if_pos ⟨h.mode, h.readingLabel⟩⟩

def probe (name : String) (attributes : Attributes) : List Event :=
  [.opened name attributes, .closed name, .opened name attributes, .text "Ongoing"]

theorem exists_run_probe (hm : s.mode = .info)
    (hlabel : anyHolds g.info.label name attributes = true) :
    ∃ t, s.run g p (probe name attributes) = .ok t ∧ t.chapters = s.chapters ∧
      s.noticesAlong g p (probe name attributes) = Credits.probe := by
  obtain ⟨first, hfirst, hatFirst, hfirstChapters, hnone⟩ :=
    exists_labelOpened (p := p) hm hlabel
  obtain ⟨between, hbetween, hinfo, hbetweenChapters, hended⟩ :=
    hatFirst.exists_closed (g := g) (p := p)
  obtain ⟨second, hsecond, hatSecond, hsecondChapters, hnone'⟩ :=
    exists_labelOpened (p := p) hinfo hlabel
  obtain ⟨last, hlast, hlastChapters, hread⟩ := hatSecond.exists_text (g := g) (p := p) "Ongoing"
  refine ⟨last, ?_, ?_, ?_⟩
  · rw [probe, run_cons_of_step _ hfirst, run_cons_of_step _ hbetween, run_cons_of_step _ hsecond,
      run_cons_of_step _ hlast, run_nil]
  · rw [hlastChapters, hsecondChapters, hbetweenChapters, hfirstChapters]
  · rw [probe, noticesAlong_cons_of_step _ hfirst, noticesAlong_cons_of_step _ hbetween,
      noticesAlong_cons_of_step _ hsecond, noticesAlong_cons_of_step _ hlast, hnone, hended, hnone',
      hread]
    rfl

/-! ## Blank texts -/

theorem afterAll_blank (hm : s.mode = .info) (hreading : s.info.readingLabel = true)
    (hblank : Text.isBlankText blank = true) :
    s.credits.afterAll (s.noticesText blank) = s.credits.assign blank := by
  rw [noticesText, if_pos ⟨hm, hreading⟩, Credits.afterAll_cons, Credits.afterAll_nil,
    Credits.after_read_of_isBlankText hblank]

/-- The extraction has failed already, no label is being read, or the active field can take a blank
text. -/
def AdmitsBlank (g : Grammar) (p : Policy) (path : String) (events : List Event) (s : State) :
    Prop :=
  (extract g p path events).isOk = true → s.info.readingLabel = true → s.credits.AdmitsBlank

theorem isNeutral_of_admitsBlank (hs : (initial path).run g p events = .ok s) (hm : s.mode = .info)
    (hblank : Text.isBlankText blank = true) (hne : blank ≠ "")
    (hadmits : s.AdmitsBlank g p path events) : IsNeutral g p path events blank := by
  intro rest
  rw [sameButBlanks_append_text_iff hs hm]
  intro hok
  have hsame : s.credits.SameInk (s.credits.afterAll (s.noticesText blank)) := by
    cases hreading : s.info.readingLabel with
    | false =>
        rw [noticesText, if_neg (by simp [hreading]), Credits.afterAll_nil]
        exact .refl _
    | true =>
        rw [afterAll_blank hm hreading hblank]
        exact (hadmits (isOk_extract_of_append hok) hreading).sameInk hblank hne
  exact (hsame.afterAll _).showAlike

/-- A continuation of two labels tells the extractions apart where a blank text is not admitted. -/
theorem admitsBlank_of_isNeutral (hs : (initial path).run g p events = .ok s) (hm : s.mode = .info)
    (hlabel : anyHolds g.info.label name attributes = true)
    (hblank : Text.isBlankText blank = true) (hne : blank ≠ "")
    (hneutral : IsNeutral g p path events blank) : s.AdmitsBlank g p path events := by
  intro hok hreading
  obtain ⟨t, ht, hchapters, hnotices⟩ := exists_run_probe (p := p) hm hlabel
  have hprobed : (extract g p path (events ++ probe name attributes)).isOk = true := by
    rw [extract_of_run ((run_append_of_run _ hs).trans ht), isOk_finish_congr hchapters,
      ← extract_of_run hs, hok]
  have halike := (sameButBlanks_append_text_iff hs hm).1 (hneutral (probe name attributes)) hprobed
  rw [hnotices, afterAll_blank hm hreading hblank] at halike
  by_contra hadmits
  exact Credits.not_showAlike_probe hadmits hblank hne halike

/-- A blank text is neutral where no label is being read, or the active field has a name or the
unknown status already, and nowhere else if the grammar knows a label. -/
theorem isNeutral_iff (hs : (initial path).run g p events = .ok s) (hm : s.mode = .info)
    (hblank : Text.isBlankText blank = true) (hne : blank ≠ "") :
    (s.AdmitsBlank g p path events → IsNeutral g p path events blank) ∧
      ∀ name attributes, anyHolds g.info.label name attributes = true →
        (IsNeutral g p path events blank ↔ s.AdmitsBlank g p path events) :=
  have hadmits := isNeutral_of_admitsBlank hs hm hblank hne
  ⟨hadmits, fun _ _ hlabel => ⟨admitsBlank_of_isNeutral hs hm hlabel hblank hne, hadmits⟩⟩

private def blankSite : Grammar :=
  .lightNovel { id := "t", sourceName := "T", site := "https://e.com/" }

private def blankPolicy : Policy where
  now := ⟨⟨2024, 1, 10⟩, 43200⟩

/-- An information block up to the value of its first label. -/
private def labelled (label value : String) : List Event := [
  .opened "div" (.ofList [("class", "spe")]), .opened "span" ∅,
  .opened "b" ∅, .text label, .closed "b", .text value]

/-- Behind a name a blank text is neutral. -/
theorem isNeutral_behindName :
    IsNeutral blankSite blankPolicy "" (labelled "Author:" "Jane") "\n " := by
  have hs : (initial "").run blankSite blankPolicy (labelled "Author:" "Jane") = .ok {
      mode := .info
      work := { author := "Jane" }
      info := { readingLabel := true, labelTag := some "span", activeField := some .author }
      seen := 6 } := by rfl
  have hlabel : anyHolds blankSite.info.label "span" ∅ = true := rfl
  refine ((isNeutral_iff hs rfl (by decide) (by decide)).2 "span" ∅ hlabel).2 fun _ _ => ⟨?_, ?_⟩
  · intro person hfield
    cases person with
    | author => decide
    | artist => exact absurd hfield (by decide)
  · intro hfield
    exact absurd hfield (by decide)

/-- Behind a status it is not: the status becomes the unknown one. -/
theorem not_isNeutral_behindStatus :
    ((initial "").run blankSite blankPolicy (labelled "Status:" "Ongoing")).map mode = .ok .info ∧
    Text.isBlankText "\n" = true ∧
    extract blankSite blankPolicy ""
        (labelled "Status:" "Ongoing" ++ [.closed "span", .closed "div"]) =
      .ok { status := .ongoing } ∧
    extract blankSite blankPolicy ""
        (labelled "Status:" "Ongoing" ++ .text "\n" :: [.closed "span", .closed "div"]) =
      .ok { status := .unknown } ∧
    ¬IsNeutral blankSite blankPolicy "" (labelled "Status:" "Ongoing") "\n" := by
  have hongoing : extract blankSite blankPolicy ""
      (labelled "Status:" "Ongoing" ++ [.closed "span", .closed "div"]) =
        .ok { status := .ongoing } := rfl
  have hunknown : extract blankSite blankPolicy ""
      (labelled "Status:" "Ongoing" ++ .text "\n" :: [.closed "span", .closed "div"]) =
        .ok { status := .unknown } := rfl
  refine ⟨rfl, by decide, hongoing, hunknown, fun hneutral => ?_⟩
  have hsame := hneutral [.closed "span", .closed "div"]
  rw [hongoing, hunknown] at hsame
  cases hsame

end State

end Feuilleton
