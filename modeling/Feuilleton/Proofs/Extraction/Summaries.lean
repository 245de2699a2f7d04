import Feuilleton.Proofs.Extraction.Description

/-!
# Summaries

A page may describe its work in several places. Its summary is the prose of these blocks, one after
the other in document order, and nothing that stands outside of them.
-/

namespace Feuilleton

/-- Texts inside of such a tag are no prose of the block around it. -/
def isAside (tag : String) : Bool :=
  tag == "div" || tag == "script"

namespace State

/-- From `s` the events lead to `t`, and `blocks` are the insides of the elements among them that
are read as a summary, in their order. -/
inductive Summarizes (g : Grammar) (p : Policy) : State → List Event → List Forest → State → Prop
  | done (s : State) : Summarizes g p s [] [] s
  | other {s m t : State} {event : Event} {events : List Event} {blocks : List Forest} :
      s.step g p event = .ok m → m.mode ≠ .summary → Summarizes g p m events blocks t →
      Summarizes g p s (event :: events) blocks t
  | block {s m t u : State} {name : String} {attributes : Attributes} {inner : Forest}
      {events : List Event} {blocks : List Forest} :
      s.mode = .idle → s.step g p (.opened name attributes) = .ok m → m.mode = .summary →
      s.run g p (Forest.element name attributes inner .nil).events = .ok t →
      Summarizes g p t events blocks u →
      Summarizes g p s ((Forest.element name attributes inner .nil).events ++ events)
        (inner :: blocks) u

open Grammar

variable {g : Grammar} {p : Policy} {s m t u : State} {name content path : String}
  {attributes : Attributes} {event : Event} {events rest : List Event} {inner : Forest}
  {blocks more : List Forest} {o : ThemeOptions}

/-! ## Single blocks -/

theorem isBoundary_described (h : name = "div") :
    (s.described (lightNovel o) name attributes).isBoundary (lightNovel o) = isAside := by
  subst h
  funext tag
  have hbounds : (lightNovel o).summary.boundaryTags = ["div", "script"] := rfl
  simp only [isBoundary, described, hbounds, isAside, List.contains_cons, List.contains_nil,
    Bool.or_false]
  cases tag == "div" <;> cases tag == "script" <;> rfl

theorem run_block (inner : Forest) (hm : s.mode = .idle)
    (hpart : partOf? (lightNovel o) name attributes = some .summary) :
    ∃ t, s.run (lightNovel o) p (Forest.element name attributes inner .nil).events = .ok t ∧
      t.mode = .idle ∧ t.work.summary = s.work.summary ++ inner.prose isAside true := by
  have hname : name = "div" := summaryTag_lightNovel (openIdle_of_summary (s := s) hpart).1
  have hrun := run_description (p := p) inner (isBoundary_described hname) (by decide) (by decide)
    hm hpart
  obtain ⟨hmode, -, hsummary⟩ := summary_captureCovers (g := lightNovel o)
    (s := s.described (lightNovel o) name attributes) inner
  obtain ⟨hopened, -, hkept⟩ := summary_captureCover (g := lightNovel o) (s := s) name attributes
  refine ⟨_, hrun, (hmode.trans hopened).trans hm, ?_⟩
  exact congrArg (· ++ inner.prose isAside true) (hsummary.trans hkept)

/-! ## Outside of blocks -/

theorem summary_openIdle : (s.openIdle g name attributes).work.summary = s.work.summary := by
  unfold openIdle
  split
  · rfl
  split
  · rfl
  split
  · rfl
  split
  · rfl
  split
  · rfl
  split
  · rfl
  split
  · unfold enterRating
    split <;> rfl
  · rfl

theorem work_openChapters : (s.openChapters g name attributes).work = s.work := by
  unfold openChapters openItem
  split
  · split <;> rfl
  · split
    · rfl
    · split <;> rfl

theorem summary_stepOpened :
    (s.stepOpened g name attributes).work.summary = s.work.summary := by
  obtain ⟨-, -, hcover⟩ := summary_captureCover (g := g) (s := s) name attributes
  rw [← hcover]
  unfold stepOpened
  generalize s.captureCover g name attributes = c
  dsimp only
  split
  · exact summary_openIdle
  · unfold openGenres
    split <;> rfl
  · unfold openSummary
    split <;> rfl
  · unfold openInfo
    split <;> rfl
  · rw [work_openChapters]
  · rfl
  · rfl

theorem summary_stepText (hm : s.mode ≠ .summary) (h : s.stepText g content = .ok t) :
    t.work.summary = s.work.summary := by
  unfold stepText at h
  split at h
  · cases h
    rfl
  · cases h
    rfl
  · cases h
    rfl
  · cases h
    unfold textGenres
    split <;> rfl
  · contradiction
  · cases h
    unfold textInfo
    split
    · exact assignInfo_summary s.work s.info.activeField
    · rfl
  · obtain rfl | ⟨_, _, _, _, _, _, rfl⟩ := textChapters_eq_ok h <;> rfl

/-- A close tag that ends a block is no break and adds nothing to it. -/
theorem summary_closeSummary (hm : s.mode = .summary)
    (hleft : (s.closeSummary g name).mode ≠ .summary) :
    (s.closeSummary g name).work.summary = s.work.summary := by
  unfold closeSummary at hleft ⊢
  by_cases hp : name = "p"
  · rw [if_pos hp] at hleft
    exact absurd hm hleft
  by_cases hbr : name = "br"
  · rw [if_neg hp, if_pos hbr] at hleft
    exact absurd hm hleft
  rw [if_neg hp, if_neg hbr]
  split <;> rfl

theorem summary_stepClosed (hm : (s.stepClosed g p name).mode ≠ .summary) :
    (s.stepClosed g p name).work.summary = s.work.summary := by
  unfold stepClosed at hm ⊢
  cases hs : s.mode with
  | idle => rfl
  | title =>
      dsimp only [closeTitle]
      split <;> rfl
  | rating =>
      dsimp only [closeRating]
      split <;> rfl
  | genres =>
      dsimp only [closeGenres]
      split
      · split <;> rfl
      · rfl
  | summary =>
      rw [hs] at hm
      exact summary_closeSummary hs hm
  | info =>
      dsimp only [closeInfo]
      split
      · rfl
      split <;> rfl
  | chapters =>
      dsimp only [closeChapters]
      split
      · split
        · rfl
        split <;> rfl
      · split <;> rfl

theorem summary_step (h : s.step g p event = .ok m) (hm : m.mode ≠ .summary) :
    m.work.summary = s.work.summary := by
  cases event with
  | opened name attributes =>
      cases h
      exact summary_stepOpened (s := s.count)
  | text content =>
      have hmode : m.mode = s.mode := mode_stepText (s := s.count) h
      exact summary_stepText (s := s.count) (hmode ▸ hm) h
  | closed name =>
      cases h
      exact summary_stepClosed (s := s.count) hm

/-! ## Blocks of a page -/

namespace Summarizes

theorem run (h : Summarizes g p s events blocks t) : s.run g p events = .ok t := by
  induction h with
  | done => rfl
  | other hstep _ _ ih => exact (run_cons_of_step _ hstep).trans ih
  | block _ _ _ hrun _ ih => exact (run_append_of_run _ hrun).trans ih

theorem append (hfirst : Summarizes g p s events blocks t) (hrest : Summarizes g p t rest more u) :
    Summarizes g p s (events ++ rest) (blocks ++ more) u := by
  induction hfirst with
  | done => exact hrest
  | other hstep hm _ ih => exact .other hstep hm (ih hrest)
  | block hidle hopened hm hrun _ ih =>
      rw [List.append_assoc]
      exact .block hidle hopened hm hrun (ih hrest)

/-- The summary grows by the prose of the blocks. -/
theorem summary_eq (h : Summarizes (lightNovel o) p s events blocks t) :
    t.work.summary =
      s.work.summary ++ String.join (blocks.map fun inner => inner.prose isAside true) := by
  induction h with
  | done s => simp
  | other hstep hm _ ih => rw [ih, summary_step hstep hm]
  | block hidle hopened hm hrun _ ih =>
      rename_i inner _ _ _
      have hpart := partOf?_of_step hidle hopened
      rw [hm] at hpart
      obtain ⟨t', hrun', -, hsummary⟩ := run_block (p := p) inner hidle hpart
      cases hrun.symm.trans hrun'
      rw [ih, hsummary, List.map_cons, String.join_cons, String.append_assoc]

end Summarizes

theorem idle_of_opened (hm : s.mode ≠ .summary)
    (h : s.step g p (.opened name attributes) = .ok t) (ht : t.mode = .summary) :
    s.mode = .idle := by
  cases h
  by_cases hidle : s.mode = .idle
  · exact hidle
  · have hkept : (s.count.stepOpened g name attributes).mode = s.mode :=
      mode_stepOpened_of_reading (s := s.count) hidle
    exact absurd (hkept.symm.trans ht) hm

/-- Every balanced page can be read in this way, because a block ends with its own close tag. -/
theorem exists_summarizes (page : Forest) (hm : s.mode ≠ .summary)
    (h : s.run (lightNovel o) p page.events = .ok t) :
    t.mode ≠ .summary ∧ ∃ blocks, Summarizes (lightNovel o) p s page.events blocks t := by
  induction page generalizing s t with
  | nil =>
      cases h
      exact ⟨hm, [], .done s⟩
  | text content rest ih =>
      obtain ⟨m, hstep, hrest⟩ := run_cons_eq_ok h
      have hmode : m.mode ≠ .summary := by
        rw [mode_stepText (s := s.count) hstep]
        exact hm
      obtain ⟨ht, blocks, hblocks⟩ := ih hmode hrest
      exact ⟨ht, blocks, .other hstep hmode hblocks⟩
  | element name attributes inner rest ihInner ihRest =>
      have hevents : (Forest.element name attributes inner rest).events =
          (Forest.element name attributes inner .nil).events ++ rest.events := by
        simp [Forest.events]
      rw [hevents] at h ⊢
      obtain ⟨u, hblock, hrest⟩ := run_append_eq_ok h
      obtain ⟨m, hopened, hinside⟩ := run_cons_eq_ok hblock
      by_cases hmode : m.mode = .summary
      · have hidle := idle_of_opened hm hopened hmode
        have hpart := partOf?_of_step hidle hopened
        rw [hmode] at hpart
        -- the summary ends with its element, so that the block is read in one piece
        obtain ⟨u', hblock', hend, -⟩ := run_block (p := p) inner hidle hpart
        cases hblock.symm.trans hblock'
        obtain ⟨ht, blocks, hblocks⟩ := ihRest (by simp [hend]) hrest
        exact ⟨ht, inner :: blocks, .block hidle hopened hmode hblock hblocks⟩
      · -- the tag is read by itself, and there may be blocks inside of its element
        obtain ⟨c, hinner, hclosing⟩ := run_append_eq_ok hinside
        obtain ⟨hc, first, hfirst⟩ := ihInner hmode hinner
        obtain ⟨u', hclosed, hnil⟩ := run_cons_eq_ok hclosing
        cases hnil
        have hu : u.mode ≠ .summary := by
          cases hclosed
          exact (stays_stepClosed (s := c.count) name).mode_ne hc (by simp)
        obtain ⟨ht, more, hmore⟩ := ihRest hu hrest
        refine ⟨ht, first ++ more, ?_⟩
        rw [← hevents, Forest.events, List.cons_append]
        exact .other hopened hmode (hfirst.append (.other hclosed hu hmore))

theorem summary_of_extract {work : Work}
    (hblocks : Summarizes (lightNovel o) p (initial path) events blocks t)
    (h : extract (lightNovel o) p path events = .ok work) :
    work.summary = Text.trim (String.join (blocks.map fun inner => inner.prose isAside true)) := by
  obtain ⟨s, hs, hfinish⟩ := exists_of_extract_eq_ok h
  obtain ⟨chapters, -, rfl⟩ := exists_of_finish_eq_ok hfinish
  cases hs.symm.trans hblocks.run
  have hempty : (initial path).work.summary = "" := rfl
  have hsummary := hblocks.summary_eq
  rw [hempty, String.empty_append] at hsummary
  exact congrArg Text.trim hsummary

/-- A block adds its prose and nothing else to the summary, and a balanced page is one block after
the other with nothing in between that the summary takes in. -/
theorem extract_summary :
    (∀ (s t : State) (name : String) (attributes : Attributes) (inner : Forest), s.mode = .idle →
      s.step (lightNovel o) p (.opened name attributes) = .ok t → t.mode = .summary →
      ∃ u, t.run (lightNovel o) p (inner.events ++ [.closed name]) = .ok u ∧ u.mode = .idle ∧
        u.work.summary = s.work.summary ++ inner.prose isAside true) ∧
    (∀ (path : String) (page : Forest) (t : State),
      (initial path).run (lightNovel o) p page.events = .ok t →
      ∃ blocks, Summarizes (lightNovel o) p (initial path) page.events blocks t) ∧
    (∀ (path : String) (events : List Event) (blocks : List Forest) (t : State) (work : Work),
      Summarizes (lightNovel o) p (initial path) events blocks t →
      extract (lightNovel o) p path events = .ok work →
      work.summary =
        Text.trim (String.join (blocks.map fun inner => inner.prose isAside true))) := by
  refine ⟨?_, ?_, ?_⟩
  · intro s t name attributes inner hidle hopened hsummary
    have hpart := partOf?_of_step hidle hopened
    rw [hsummary] at hpart
    obtain ⟨u, hrun, hu, hprose⟩ := run_block (p := p) inner hidle hpart
    rw [Forest.events, List.cons_append, run_cons_of_step _ hopened] at hrun
    exact ⟨u, hrun, hu, hprose⟩
  · intro path page t hrun
    exact (exists_summarizes page (by simp [initial]) hrun).2
  · intro path events blocks t work hblocks hwork
    exact summary_of_extract hblocks hwork

private def summarySite : ThemeOptions where
  id := "t"
  sourceName := "T"
  site := "https://e.com/"

private def summaryPolicy : Policy where
  now := ⟨⟨2024, 1, 10⟩, 0⟩

/-- An aside with a paragraph and a line break of its own, and the cover behind it. -/
private def firstBlock : Forest :=
  .text "One" (.element "div" ∅
    (.text "Aside" (.element "p" ∅ (.text "Also" (.element "br" ∅ .nil .nil)) .nil))
    (.element "img" (.ofList [("class", "ts-post-image"), ("src", "c.png")]) .nil
      (.text "\n" (.text " two" .nil))))

private def summarizedPage : Forest :=
  .element "div" (.ofList [("class", "entry-content")]) firstBlock
    (.element "p" ∅ (.text "Between" .nil)
      (.element "div" (.ofList [("itemprop", "description")])
        (.element "p" ∅ (.text "Three" .nil) .nil) .nil))

private def blockStart : State where
  mode := .summary
  summary := { depth := 1 }
  seen := 1

theorem extract_summary_twoBlocks :
    (∃ u, blockStart.run (lightNovel summarySite) summaryPolicy
        (firstBlock.events ++ [.closed "div"]) = .ok u ∧ u.mode = .idle ∧
      u.work.summary = "One\n\n\n two") ∧
    ∃ blocks t work,
      Summarizes (lightNovel summarySite) summaryPolicy (initial "") summarizedPage.events blocks t ∧
      extract (lightNovel summarySite) summaryPolicy "" summarizedPage.events = .ok work ∧
      work.summary = "One\n\n\n twoThree" ∧
      work.summary =
        Text.trim (String.join (blocks.map fun inner => inner.prose isAside true)) := by
  obtain ⟨hblock, hpage, hwork⟩ := extract_summary (o := summarySite) (p := summaryPolicy)
  refine ⟨?_, ?_⟩
  · exact hblock (initial "") blockStart "div" (.ofList [("class", "entry-content")]) firstBlock rfl
      rfl rfl
  · obtain ⟨blocks, hblocks⟩ := hpage "" summarizedPage _ rfl
    exact ⟨blocks, _, _, hblocks, rfl, rfl, hwork "" _ blocks _ _ hblocks rfl⟩

end State

end Feuilleton
