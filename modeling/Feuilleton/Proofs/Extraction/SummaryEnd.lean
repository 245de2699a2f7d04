import Feuilleton.Proofs.Extraction.Context
import Feuilleton.Proofs.Extraction.Parts
import Feuilleton.Proofs.Extraction.Prose

/-!
# The end of a summary

A summary ends where as many of its boundaries have been closed as were opened, its container among
them. Paragraphs and line breaks are never taken for the end of a boundary, so that a summary whose
boundaries are such tags does not end with its container.
-/

namespace Feuilleton

/-- The elements of a forest that count for the depth with their open tag alone. -/
def Forest.unclosed (counts : String → Bool) : Forest → Nat
  | .nil => 0
  | .text _ rest => rest.unclosed counts
  | .element name _ inner rest =>
      (if isBreak name && counts name then 1 else 0) + inner.unclosed counts + rest.unclosed counts

theorem Forest.unclosed_eq_zero_iff {counts : String → Bool} {forest : Forest} :
    forest.unclosed counts = 0 ↔
      forest.OnTags fun name _ => isBreak name = true → counts name = false := by
  induction forest with
  | nil => simp [unclosed, onTags_nil]
  | text content rest ih => rw [unclosed, ih, onTags_text]
  | element name attributes inner rest ihInner ihRest =>
      rw [unclosed, Nat.add_eq_zero_iff, Nat.add_eq_zero_iff, ihInner, ihRest, onTags_element,
        and_assoc]
      cases isBreak name <;> cases counts name <;> simp

/-- Inside of a summary an element gives back the depth that its open tag took, except for breaks. -/
theorem Context.close_inside (g : Grammar) (name container : String) (depth : Nat) :
    close g name (summary container (depth + (if countsFor g container name then 1 else 0) + 1)) =
      summary container
        (depth + (if isBreak name && countsFor g container name then 1 else 0) + 1) := by
  cases hbreak : isBreak name with
  | true => rw [close_break hbreak, Bool.true_and]
  | false =>
      cases hcount : countsFor g container name with
      | true =>
          rw [close_boundary hbreak hcount]
          simp
      | false =>
          rw [close_prose hcount]
          simp

namespace State

open Context

variable {g : Grammar} {p : Policy} {s t : State} {name container : String}
  {attributes : Attributes} {depth : Nat} {inner : Forest}

/-! ## Depths -/

theorem context_of_summary (hm : s.mode = .summary) :
    s.context = .summary s.summary.containerTag s.summary.depth := by
  simp only [context, hm]

theorem context_opened (name : String) (attributes : Attributes)
    (h : s.context = .summary container depth) :
    ∃ t, s.step g p (.opened name attributes) = .ok t ∧
      t.context = .summary container (depth + if countsFor g container name then 1 else 0) := by
  have hm := mode_of_summary h
  rw [context_of_summary hm] at h
  cases h
  obtain ⟨hmode, hsummary, -⟩ := summary_captureCover (g := g) (s := s) name attributes
  refine ⟨_, step_opened_summary name attributes hm, ?_⟩
  simp only [context, addProse, atDepth, hmode, hm, hsummary]
  rfl

theorem context_text (content : String) (h : s.context = .summary container depth) :
    ∃ t, s.step g p (.text content) = .ok t ∧ t.context = .summary container depth := by
  have hstep : s.step g p (.text content) = _ := step_text_summary (mode_of_summary h)
  exact ⟨_, hstep, (context_stepText (s := s.count) hstep).trans h⟩

theorem context_closed (name : String) (h : s.context = .summary container depth) :
    ∃ t, s.step g p (.closed name) = .ok t ∧
      t.context = (Context.summary container depth).close g name := by
  refine ⟨_, rfl, ?_⟩
  rw [context_stepClosed]
  exact congrArg (Context.close g name) h

/-- A forest leaves open what its breaks have opened. -/
theorem context_forest (forest : Forest) (h : s.context = .summary container (depth + 1)) :
    ∃ t, s.run g p forest.events = .ok t ∧
      t.context = .summary container (depth + 1 + forest.unclosed (countsFor g container)) := by
  induction forest generalizing s depth with
  | nil => exact ⟨s, rfl, h⟩
  | text content rest ih =>
      obtain ⟨m, htext, hm⟩ := context_text (g := g) (p := p) content h
      obtain ⟨t, hrest, ht⟩ := ih hm
      exact ⟨t, (run_cons_of_step _ htext).trans hrest, ht⟩
  | element name attributes inner rest ihInner ihRest =>
      obtain ⟨m, hopened, hm⟩ := context_opened (g := g) (p := p) name attributes h
      rw [Nat.add_right_comm] at hm
      obtain ⟨c, hinner, hc⟩ := ihInner hm
      have hdepth : c.context = .summary container (depth + inner.unclosed (countsFor g container) +
          (if countsFor g container name then 1 else 0) + 1) := by
        rw [hc]
        congr 1
        omega
      obtain ⟨u, hclosed, hu⟩ := context_closed (g := g) (p := p) name hdepth
      rw [close_inside] at hu
      obtain ⟨t, hrest, ht⟩ := ihRest hu
      refine ⟨t, ?_, ?_⟩
      · rw [Forest.events, List.cons_append, run_cons_of_step _ hopened, run_append_of_run _ hinner,
          run_cons_of_step _ hclosed, hrest]
      · rw [ht, Forest.unclosed]
        congr 1
        omega

/-- Wherever a forest breaks off, the summary around it goes on. -/
theorem context_of_prefix (forest : Forest) {before : List Event} (hfront : before <+: forest.events)
    (h : s.context = .summary container (depth + 1)) :
    ∃ t n, s.run g p before = .ok t ∧ t.context = .summary container (n + 1) := by
  induction forest generalizing s depth before with
  | nil =>
      cases List.prefix_nil.1 hfront
      exact ⟨s, depth, rfl, h⟩
  | text content rest ih =>
      obtain rfl | ⟨tail, rfl, htail⟩ := List.prefix_cons_iff.1 hfront
      · exact ⟨s, depth, rfl, h⟩
      · obtain ⟨m, htext, hm⟩ := context_text (g := g) (p := p) content h
        obtain ⟨t, n, hrun, ht⟩ := ih htail hm
        exact ⟨t, n, (run_cons_of_step _ htext).trans hrun, ht⟩
  | element name attributes inner rest ihInner ihRest =>
      obtain rfl | ⟨first, hfirst, rfl⟩ | ⟨last, hlast, rfl⟩ :=
        Forest.cases_of_prefix_element hfront
      · exact ⟨s, depth, rfl, h⟩
      · obtain ⟨m, hopened, hm⟩ := context_opened (g := g) (p := p) name attributes h
        rw [Nat.add_right_comm] at hm
        obtain ⟨t, n, hrun, ht⟩ := ihInner hfirst hm
        exact ⟨t, n, (run_cons_of_step _ hopened).trans hrun, ht⟩
      · obtain ⟨u, helement, hu⟩ := context_forest (g := g) (p := p)
          (.element name attributes inner .nil) h
        rw [Nat.add_right_comm] at hu
        obtain ⟨t, n, hrun, ht⟩ := ihRest hlast hu
        have hevents : Event.opened name attributes :: inner.events ++ .closed name :: last =
            (Forest.element name attributes inner .nil).events ++ last := by
          simp [Forest.events]
        rw [hevents, run_append_of_run _ helement]
        exact ⟨t, n, hrun, ht⟩

/-! ## Containers -/

theorem context_of_entered (hm : s.mode = .idle)
    (h : s.step g p (.opened name attributes) = .ok t) (ht : t.mode = .summary) :
    t.context = .summary name 1 := by
  have hpart := partOf?_of_step hm h
  rw [ht] at hpart
  cases h
  have hcaptured : (s.count.captureCover g name attributes).mode = .idle :=
    mode_captureCover.trans hm
  simp only [stepOpened, hcaptured, (openIdle_of_summary hpart).2]
  rfl

/-- The summary that the tag begins goes on all through its element and ends with it, and the tag of
the container counts for the depth where it is opened and where it is closed. -/
structure SummaryLasts (g : Grammar) (p : Policy) (s : State) (name : String)
    (attributes : Attributes) (inner : Forest) : Prop where
  inside : ∀ before, before <+: inner.events →
    ∃ t, s.run g p (.opened name attributes :: before) = .ok t ∧ t.mode = .summary
  ended : ∃ t, s.run g p (Forest.element name attributes inner .nil).events = .ok t ∧ t.mode = .idle
  opens : ∀ (t u : State) (others : Attributes) (depth : Nat),
    t.context = .summary name (depth + 1) → t.step g p (.opened name others) = .ok u →
    u.context = .summary name (depth + 2)
  closes : ∀ (t u : State) (depth : Nat),
    t.context = .summary name (depth + 1) → t.step g p (.closed name) = .ok u →
    u.context = if depth = 0 then .idle else .summary name depth

theorem run_container (inner : Forest) (hm : s.mode = .idle)
    (hopened : s.step g p (.opened name attributes) = .ok t) (hsummary : t.mode = .summary) :
    ∃ u, s.run g p (Forest.element name attributes inner .nil).events = .ok u ∧
      (u.mode = .idle ↔ isBreak name = false ∧ inner.unclosed (countsFor g name) = 0) := by
  have hentered : t.context = .summary name (0 + 1) := context_of_entered hm hopened hsummary
  obtain ⟨c, hinner, hc⟩ := context_forest (g := g) (p := p) inner hentered
  obtain ⟨u, hclosed, hu⟩ := context_closed (g := g) (p := p) name hc
  refine ⟨u, ?_, ?_⟩
  · rw [Forest.events, List.cons_append, run_cons_of_step _ hopened, run_append_of_run _ hinner,
      run_cons_of_step _ hclosed]
    rfl
  · rw [← context_eq_idle_iff, hu]
    have hcount : countsFor g name name = true := by simp [countsFor]
    cases hbreak : isBreak name with
    | true => simp [close_break hbreak]
    | false =>
        rw [Nat.zero_add, Nat.add_comm, close_boundary hbreak hcount]
        simp

theorem unclosed_container (h : isBreak name = false) : inner.unclosed (countsFor g name) = 0 ↔
    inner.OnTags fun tag _ => isBreak tag = true → tag ∉ g.summary.boundaryTags := by
  have hname (tag : String) (htag : isBreak tag = true) : (tag == name) = false := by
    rw [beq_eq_false_iff_ne]
    rintro rfl
    rw [h] at htag
    contradiction
  rw [Forest.unclosed_eq_zero_iff]
  unfold Forest.OnTags
  refine forall_congr' fun tag => forall_congr' fun attributes => imp_congr_right fun _ =>
    imp_congr_right fun htag => ?_
  simp [countsFor, hname tag htag]

/-- A summary goes on all through its element. It ends with it and counts its own tag alike in both
places unless the tag is a break or a break inside of it is a boundary. -/
theorem summaryLasts_iff (hm : s.mode = .idle)
    (hopened : s.step g p (.opened name attributes) = .ok t) (hsummary : t.mode = .summary) :
    (∀ before, before <+: inner.events →
      ∃ u, s.run g p (.opened name attributes :: before) = .ok u ∧ u.mode = .summary) ∧
    (SummaryLasts g p s name attributes inner ↔ isBreak name = false ∧
      inner.OnTags fun tag _ => isBreak tag = true → tag ∉ g.summary.boundaryTags) := by
  have hentered : t.context = .summary name (0 + 1) := context_of_entered hm hopened hsummary
  have hinside (before : List Event) (hfront : before <+: inner.events) :
      ∃ u, s.run g p (.opened name attributes :: before) = .ok u ∧ u.mode = .summary := by
    obtain ⟨u, n, hrun, hu⟩ := context_of_prefix (p := p) inner hfront hentered
    exact ⟨u, (run_cons_of_step _ hopened).trans hrun, mode_of_summary hu⟩
  obtain ⟨u, helement, hidle⟩ := run_container inner hm hopened hsummary
  refine ⟨hinside, ?_, ?_⟩
  · intro hlasts
    obtain ⟨u', helement', hended⟩ := hlasts.ended
    cases helement.symm.trans helement'
    obtain ⟨hbreak, hclosed⟩ := hidle.1 hended
    exact ⟨hbreak, (unclosed_container hbreak).1 hclosed⟩
  · rintro ⟨hbreak, hclosed⟩
    have hcount : countsFor g name name = true := by simp [countsFor]
    exact {
      inside := hinside
      ended := ⟨u, helement, hidle.2 ⟨hbreak, (unclosed_container hbreak).2 hclosed⟩⟩
      opens := by
        intro c d others depth hc hstep
        obtain ⟨d', hstep', hd⟩ := context_opened (p := p) name others hc
        cases hstep.symm.trans hstep'
        rw [hd, hcount]
        rfl
      closes := by
        intro c d depth hc hstep
        obtain ⟨d', hstep', hd⟩ := context_closed (p := p) name hc
        cases hstep.symm.trans hstep'
        rw [hd, close_boundary hbreak hcount] }

private def proseSite (container : Predicate) (boundaryTags : List String) : Grammar where
  id := ""
  sourceName := ""
  site := ""
  summary := { container := [container], boundaryTags }
  genres := { container := [.tagIs "nav"] }

private def prosePolicy : Policy where
  now := ⟨⟨2024, 1, 10⟩, 0⟩

/-- A container inside of its like, and genres in a boundary. -/
private def nestedProse : Forest :=
  .element "p" ∅ (.text "Prose" (.element "br" ∅ .nil .nil))
    (.element "section" ∅ (.element "p" ∅ (.text "Quote" .nil) .nil)
      (.element "figure" ∅ (.element "nav" ∅ .nil .nil) .nil))

private def sectionEntered : State where
  mode := .summary
  summary := { depth := 1, containerTag := "section" }
  seen := 1

theorem summaryLasts_nestedProse :
    SummaryLasts (proseSite (.tagIs "section") ["figure"]) prosePolicy (initial "") "section" ∅
      nestedProse := by
  have hopened : (initial "").step (proseSite (.tagIs "section") ["figure"]) prosePolicy
      (.opened "section" ∅) = .ok sectionEntered := rfl
  exact (summaryLasts_iff rfl hopened rfl).2.2 ⟨rfl, by decide⟩

private def paragraphEntered : State where
  mode := .summary
  summary := { depth := 1, containerTag := "p" }
  seen := 1

private def paragraphClosed : State where
  mode := .summary
  work := { summary := "Prose\n\n" }
  summary := { depth := 1, containerTag := "p" }
  seen := 3

/-- The paragraph begins a summary, and its own close tag does not end it. -/
theorem not_summaryLasts_paragraph :
    (initial "").step (proseSite (.classIs "desc") ["div", "script"]) prosePolicy
        (.opened "p" (.ofList [("class", "desc")])) = .ok paragraphEntered ∧
      paragraphEntered.mode = .summary ∧
      ¬SummaryLasts (proseSite (.classIs "desc") ["div", "script"]) prosePolicy (initial "") "p"
        (.ofList [("class", "desc")]) (.text "Prose" .nil) := by
  refine ⟨rfl, rfl, fun hlasts => ?_⟩
  obtain ⟨t, hrun, hidle⟩ := hlasts.ended
  have hclosed : (initial "").run (proseSite (.classIs "desc") ["div", "script"]) prosePolicy
      (Forest.element "p" (.ofList [("class", "desc")]) (.text "Prose" .nil) .nil).events =
      .ok paragraphClosed := rfl
  cases hclosed.symm.trans hrun
  contradiction

end State

end Feuilleton
