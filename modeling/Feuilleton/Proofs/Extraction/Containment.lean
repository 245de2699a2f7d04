import Feuilleton.Proofs.Extraction.Context

/-!
# Containment

Where the chapter list ends with its container and neither line nor paragraph breaks bound the
summary, balanced events bring an idle state back to an idle state: no context outlives the
element that began it.
-/

namespace Feuilleton.State

open Context

variable {g : Grammar} {p : Policy} {s t : State}

/-- A tag whose element cannot outlive itself: it ends the chapter list or the summary that it
begins. -/
structure Contained (g : Grammar) (name : String) (attributes : Attributes) : Prop where
  summary : anyHolds g.summary.container name attributes → name ≠ "p" ∧ name ≠ "br"
  chapters : anyHolds g.chapters.container name attributes → chaptersEnd g name = name

/-- A balanced forest settles the context in which it is read. The induction is on the forest: the
inside of an element settles what its open tag began, and the close tag ends it. -/
theorem settles_of_contained (hp : "p" ∉ g.summary.boundaryTags)
    (hbr : "br" ∉ g.summary.boundaryTags) (forest : Forest) (htags : forest.OnTags (Contained g))
    (hs : Coherent p s) (hplain : s.context.Plain) (h : s.run g p forest.events = .ok t) :
    Settles s.context t.context := by
  induction forest generalizing s t with
  | nil =>
      cases h
      exact .refl _
  | text content rest ih =>
      obtain ⟨m, hm, hrest⟩ := run_cons_eq_ok h
      have hcontext : m.context = s.context := context_stepText (s := s.count) hm
      rw [← hcontext] at hplain ⊢
      exact ih (Forest.onTags_text.1 htags) (hs.step hm) hplain hrest
  | element name attributes inner rest ihInner ihRest =>
      obtain ⟨htag, hinnerTags, hrestTags⟩ := Forest.onTags_element.1 htags
      obtain ⟨opened, hopened, htail⟩ := run_cons_eq_ok h
      obtain ⟨read, hread, htail⟩ := run_append_eq_ok htail
      obtain ⟨closed, hclosed, hrest⟩ := run_cons_eq_ok htail
      have hopen : Opens g name attributes s.context opened.context := by
        cases hopened
        exact opens_stepOpened (s := s.count) { hs with }
      have hplainOpened := hplain.of_opens hopen htag.summary
      have hinner := ihInner hinnerTags (hs.step hopened) hplainOpened hread
      have hclose : closed.context = read.context.close g name := by
        cases hclosed
        exact context_stepClosed
      have helement : Settles s.context closed.context := by
        rw [hclose]
        exact hinner.close_of_opens (fun hlist _ => htag.chapters hlist) hp hbr hplain hplainOpened
          hopen
      have hcoherent : Coherent p closed := ((hs.step hopened).run hread).step hclosed
      exact helement.trans (ihRest hrestTags hcoherent (hplain.of_settles helement) hrest)

theorem settles_of_run (hend : g.chapters.endTag = none ∨ g.chapters.endTag = some "")
    (hp : "p" ∉ g.summary.boundaryTags) (hbr : "br" ∉ g.summary.boundaryTags)
    (forest : Forest)
    (htags : forest.OnTags fun name attributes =>
      anyHolds g.summary.container name attributes → name ≠ "p" ∧ name ≠ "br")
    (hs : Coherent p s) (hplain : s.context.Plain) (h : s.run g p forest.events = .ok t) :
    Settles s.context t.context :=
  settles_of_contained hp hbr forest
    (fun name attributes hmem =>
      ⟨htags name attributes hmem, fun _ => chaptersEnd_eq hend name⟩) hs hplain h

/-- No context outlives the element that opened it. -/
theorem idle_of_run_forest (hend : g.chapters.endTag = none ∨ g.chapters.endTag = some "")
    (hp : "p" ∉ g.summary.boundaryTags) (hbr : "br" ∉ g.summary.boundaryTags)
    (forest : Forest)
    (htags : ∀ name attributes, .opened name attributes ∈ forest.events →
      anyHolds g.summary.container name attributes → name ≠ "p" ∧ name ≠ "br")
    (hs : Reachable g p s) (hidle : s.mode = .idle) (h : s.run g p forest.events = .ok t) :
    t.mode = .idle ∧ t.genres.readingTag = none ∧ t.summary.depth = 0 ∧
      t.info.readingLabel = false ∧ t.info.labelTag = none ∧ t.info.activeField = none ∧
      t.chapters.draft = none := by
  have hcontext : s.context = .idle := context_eq_idle_iff.2 hidle
  have hplain : s.context.Plain := by
    rw [hcontext]
    trivial
  have hsettles := settles_of_run hend hp hbr forest htags hs.coherent hplain h
  rw [hcontext] at hsettles
  have hmode : t.mode = .idle := context_eq_idle_iff.1 hsettles.eq_idle
  have ht : Coherent p t := (hs.run h).coherent
  have hrest := ht.atRest (.inl hmode)
  exact ⟨hmode, hrest.link, hrest.depth, hrest.label, ht.labelTag_eq_none hrest.label,
    hrest.field, hrest.draft⟩

private def nestedSite : Grammar where
  id := ""
  sourceName := ""
  site := ""
  title := [.tagIs "h1"]
  genres := { container := [.tagIs "nav"] }
  summary := { container := [.tagIs "section"] }
  chapters := { container := [.tagIs "ol"], endTag := none, number := [.tagIs "b"] }

private def nestedPolicy : Policy where
  now := ⟨⟨2024, 1, 10⟩, 0⟩

/-- Genres inside a title that is left early, an item whose cell is left early, and a chapter list
inside a summary. -/
private def nestedPage : Forest :=
  .element "h1" ∅
    (.text "Name" (.element "h1" ∅ .nil
      (.element "nav" ∅ (.element "a" ∅ (.text "Drama" .nil) .nil) .nil)))
    (.element "ol" ∅ (.element "li" ∅ (.element "b" ∅ (.element "i" ∅ .nil .nil) .nil) .nil)
      (.element "section" ∅
        (.element "p" ∅ (.text "Prose" (.element "ol" ∅ .nil .nil)) .nil) .nil))

private def nestedEnd : State where
  work := { name := "Name", summary := "Prose\n\n" }
  genres := { fragments := ["Drama"] }
  summary := { containerTag := "section" }
  chapters := { endTag := "ol" }
  fieldEndTag := some "h1"
  fieldText := "Name"
  seen := 25

theorem idle_of_run_nestedPage :
    (initial "").run nestedSite nestedPolicy nestedPage.events = .ok nestedEnd ∧
      nestedEnd.mode = .idle ∧ nestedEnd.chapters.draft = none := by
  have hrun : (initial "").run nestedSite nestedPolicy nestedPage.events = .ok nestedEnd := rfl
  have hidle := idle_of_run_forest (.inl rfl) (by decide) (by decide) nestedPage
    (fun name attributes _ hcontainer => by
      have hname : name = "section" := by
        simpa [anyHolds, nestedSite, Predicate.tagIs, Predicate.holdsFor] using hcontainer
      rw [hname]
      decide)
    (.initial "") rfl hrun
  exact ⟨hrun, hidle.1, hidle.2.2.2.2.2.2⟩

end Feuilleton.State
