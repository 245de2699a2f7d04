import Feuilleton.Proofs.Extraction.HiddenOutcome
import Feuilleton.Proofs.Extraction.Output
import Feuilleton.Proofs.Extraction.Parts
import Feuilleton.Proofs.Extraction.Prose
import Feuilleton.Proofs.Extraction.ThemeTags

/-!
# Descriptions

A site shows the description of a work as its author wrote it. Of a work, what is written there
decides the summary and nothing else.
-/

namespace Feuilleton

def Work.undescribed (work : Work) : Work :=
  { work with summary := "" }

namespace State

open Grammar

variable {g : Grammar} {p : Policy} {s t : State} {name path : String} {attributes : Attributes}
  {o : ThemeOptions} {inner : Forest}

/-! ## States without their prose -/

/-- The state without what prose leaves in it. -/
def undescribed (s : State) : State :=
  s.mapOutput fun o => { o with summary := "", seen := 0 }

def Output.behind (text : String) (events : Nat) (o : Output) : Output :=
  { o with summary := text ++ o.summary, seen := events + o.seen }

theorem additive_behind (text : String) (events : Nat) : Additive (Output.behind text events) where
  prose o content := by simp [Output.behind, String.append_assoc]
  hidden o := rfl
  records o chapters := rfl
  seen o := rfl

theorem mapOutput_undescribed :
    s.undescribed.mapOutput (Output.behind s.work.summary s.seen) = s := by
  simp [undescribed, mapOutput, output, Output.behind]

theorem undescribed_addProse (text : String) (events : Nat) :
    (s.addProse text events).undescribed = s.undescribed := rfl

theorem run_undescribed (events : List Event) :
    (s.undescribed.run g p events).map undescribed = (s.run g p events).map undescribed := by
  -- The prose can as well be put in front of what the run adds to none.
  have hrun := run_mapOutput (s := s.undescribed) (g := g) (p := p)
    (additive_behind s.work.summary s.seen) events
  rw [mapOutput_undescribed] at hrun
  rw [hrun]
  cases s.undescribed.run g p events with
  | error tooLong => rfl
  | ok t => rfl

theorem finish_undescribed : s.undescribed.finish g p = (s.finish g p).map Work.undescribed := by
  unfold finish
  rw [toWork_eq_map, toWork_eq_map]
  have hchapters : s.undescribed.settledChapters g p = s.settledChapters g p := rfl
  rw [hchapters]
  cases s.settledChapters g p with
  | error e => rfl
  | ok chapters => rfl

theorem extract_undescribed (events : List Event) :
    (extract g p path events).map Work.undescribed =
      match ((initial path).run g p events).map undescribed with
      | .ok s => s.finish g p
      | .error tooLong => .error (.numeralTooLong tooLong.digits) := by
  unfold extract
  cases (initial path).run g p events with
  | error tooLong => rfl
  | ok s => exact finish_undescribed.symm

/-- Pages that have differed in their prose so far give works that differ in their summaries. -/
theorem extract_append_undescribed {first second : List Event} (after : List Event)
    (hs : (initial path).run g p first = .ok s) (ht : (initial path).run g p second = .ok t)
    (hsame : s.undescribed = t.undescribed) :
    (extract g p path (first ++ after)).map Work.undescribed =
      (extract g p path (second ++ after)).map Work.undescribed := by
  have hafter : (s.run g p after).map undescribed = (t.run g p after).map undescribed := by
    rw [← run_undescribed, hsame, run_undescribed]
  rw [extract_undescribed, extract_undescribed, run_append_of_run after hs,
    run_append_of_run after ht, hafter]

/-! ## Elements that are read as a summary -/

def described (g : Grammar) (name : String) (attributes : Attributes) (s : State) : State :=
  { s.captureCover g name attributes with summary := { depth := 0, containerTag := name } }

/-- Whatever is inside, the element leaves nothing open, and nothing behind but prose and covers. -/
theorem run_description {bounds : String → Bool} (inner : Forest)
    (hbounds : (s.described g name attributes).isBoundary g = bounds)
    (hp : bounds "p" = false) (hbr : bounds "br" = false) (hm : s.mode = .idle)
    (hpart : partOf? g name attributes = some .summary) :
    s.run g p (Forest.element name attributes inner .nil).events =
      .ok ((captureCovers g inner (s.described g name attributes)).addProse
        (inner.prose bounds true) (inner.events.length + 2)) := by
  have hidle : (s.captureCover g name attributes).mode = .idle := mode_captureCover.trans hm
  have hopened : s.step g p (.opened name attributes) =
      .ok ((s.captureCover g name attributes).count.enterSummary name) := by
    have hcounted : (s.captureCover g name attributes).count.mode = .idle := hidle
    simp only [step, stepOpened, captureCover_count, hcounted, (openIdle_of_summary hpart).2]
  have hinner := run_forest_summary (p := p) inner
    (s := (s.captureCover g name attributes).count.enterSummary name) rfl Nat.one_pos hbounds
    (decide_eq_true rfl) hp hbr
  have hcovers : captureCovers g inner ((s.captureCover g name attributes).count.enterSummary name) =
      (((captureCovers g inner (s.described g name attributes)).enter .summary).atDepth 1).count :=
    captureCovers_comm (s := s.described g name attributes)
      (f := fun s => ((s.enter .summary).atDepth 1).count) (fun _ _ _ => by
        rw [captureCover_count, captureCover_atDepth, captureCover_enter]) inner
  obtain ⟨hmode, hsummary, -⟩ := summary_captureCovers (g := g)
    (s := s.described g name attributes) inner
  rw [hcovers] at hinner
  rw [Forest.events, List.cons_append, run_cons_of_step _ hopened, run_append_of_run _ hinner]
  generalize captureCovers g inner (s.described g name attributes) = c at hmode hsummary ⊢
  replace hmode : c.mode = .idle := hmode.trans hidle
  replace hsummary : c.summary = { depth := 0, containerTag := name } := hsummary
  subst hbounds
  have hboundary : c.isBoundary g = (s.described g name attributes).isBoundary g :=
    isBoundary_of_containerTag (by rw [hsummary]; rfl)
  have hclosed := step_closed_container (g := g) (p := p) name
    (s := (((c.enter .summary).atDepth 1).count).addProse
      (inner.prose ((s.described g name attributes).isBoundary g) true) inner.events.length)
    rfl rfl (by simp [addProse, count, atDepth, enter, hsummary]) (hboundary ▸ hp) (hboundary ▸ hbr)
  rw [run_cons_of_step _ hclosed]
  simp [Forest.events, addProse, atDepth, count, enter, hmode, hsummary]
  omega

theorem exists_run_description (hm : s.mode = .idle)
    (hpart : partOf? (lightNovel o) name attributes = some .summary)
    (hcover : inner.OnTags fun name attributes =>
      anyHolds (lightNovel o).cover.image name attributes = false) :
    ∃ t, s.run (lightNovel o) p (Forest.element name attributes inner .nil).events = .ok t ∧
      t.undescribed = (s.described (lightNovel o) name attributes).undescribed := by
  have hname : name = "div" :=
    summaryTag_lightNovel (openIdle_of_summary (s := s) hpart).1
  have hrun := run_description (p := p) inner rfl (by subst hname; rfl)
    (by subst hname; rfl) hm hpart
  rw [captureCovers_of_not_image hcover] at hrun
  exact ⟨_, hrun, undescribed_addProse _ _⟩

/-- What a description contains decides the summary of the work and nothing else. -/
theorem extract_description {before : List Event} {first second : Forest} (after : List Event)
    (hbefore : (initial path).run (lightNovel o) p before = .ok s) (hidle : s.mode = .idle)
    (hopened : s.step (lightNovel o) p (.opened name attributes) = .ok t)
    (hsummary : t.mode = .summary)
    (hfirst : first.OnTags fun name attributes =>
      anyHolds (lightNovel o).cover.image name attributes = false)
    (hsecond : second.OnTags fun name attributes =>
      anyHolds (lightNovel o).cover.image name attributes = false) :
    (extract (lightNovel o) p path
        (before ++ (Forest.element name attributes first .nil).events ++ after)).map
        Work.undescribed =
      (extract (lightNovel o) p path
        (before ++ (Forest.element name attributes second .nil).events ++ after)).map
        Work.undescribed := by
  have hpart : partOf? (lightNovel o) name attributes = some .summary := by
    rw [partOf?_of_step hidle hopened, hsummary]
    rfl
  obtain ⟨s₁, hs₁, hleft₁⟩ := exists_run_description (p := p) hidle hpart hfirst
  obtain ⟨s₂, hs₂, hleft₂⟩ := exists_run_description (p := p) hidle hpart hsecond
  exact extract_append_undescribed after ((run_append_of_run _ hbefore).trans hs₁)
    ((run_append_of_run _ hbefore).trans hs₂) (hleft₁.trans hleft₂.symm)

private def describedSite : Grammar := .lightNovel {
  id := "t"
  sourceName := "T"
  site := "https://e.com/" }

private def describedPolicy : Policy where
  now := ⟨⟨2024, 1, 10⟩, 0⟩

private def namedPage : List Event := [
  .opened "h1" (.ofList [("class", "entry-title")]), .text "Name", .closed "h1"]

/-- Genres, an author, a rating and a chapter of somebody else, below a description of its own. -/
private def injected : Forest :=
  .element "div" (.ofList [("class", "genxed")]) (.element "a" ∅ (.text "Drama" .nil) .nil)
    (.element "div" (.ofList [("class", "spe")])
      (.element "span" ∅ (.text "Author:" .nil) (.text "Nobody" .nil))
      (.element "span" (.ofList [("itemprop", "ratingValue"), ("content", "5")]) .nil
        (.element "div" (.ofList [("class", "eplister")])
          (.element "ul" ∅
            (.element "li" ∅ (.element "a" (.ofList [("href", "https://e.com/c1/")]) .nil .nil)
              .nil) .nil)
          (.element "div" (.ofList [("class", "entry-content")]) (.text "Prose" .nil) .nil))))

private def genresPage : List Event := [
  .opened "div" (.ofList [("class", "genxed")]), .opened "a" ∅, .text "Comedy", .closed "a",
  .closed "div"]

theorem extract_injected :
    (extract describedSite describedPolicy "" (namedPage ++ (Forest.element "div"
        (.ofList [("class", "entry-content")]) injected .nil).events ++ genresPage)).map
        Work.undescribed =
      (extract describedSite describedPolicy "" (namedPage ++ (Forest.element "div"
        (.ofList [("class", "entry-content")]) (.text "Prose" .nil) .nil).events ++
        genresPage)).map Work.undescribed :=
  extract_description genresPage
    (s := { work := { name := "Name" }, fieldEndTag := some "h1", fieldText := "Name", seen := 3 })
    rfl rfl rfl rfl (by decide) (by decide)

end State

end Feuilleton
