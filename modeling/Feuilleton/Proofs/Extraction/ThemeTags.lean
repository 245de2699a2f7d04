import Feuilleton.Grammar.Theme
import Feuilleton.Proofs.Extraction.Containment

/-!
# Tags of the theme

In the theme every summary is a `div`, which no line or paragraph break can end, so that only a
chapter list can outlive its element: it ends with a tag of its own.
-/

namespace Feuilleton

namespace Grammar

variable {o : ThemeOptions} {name : String} {attributes : Attributes}

theorem summaryTag_lightNovel
    (h : anyHolds (lightNovel o).summary.container name attributes = true) : name = "div" := by
  have hcontainer : (lightNovel o).summary.container =
      [.classIsOn "div" "entry-content", .attributeIsOn "div" "itemprop" "description"] := rfl
  simp [hcontainer, anyHolds, Predicate.classIsOn, Predicate.attributeIsOn, Predicate.holdsFor,
    Predicate.admits] at h
  rcases h with h | h <;> exact h.1.symm

theorem contained_lightNovel
    (h : anyHolds (lightNovel o).chapters.container name attributes = false) :
    State.Contained (lightNovel o) name attributes where
  summary := by
    intro hsummary
    rw [summaryTag_lightNovel hsummary]
    decide
  chapters := by simp [h]

end Grammar

namespace State

open Grammar

variable {o : ThemeOptions} {p : Policy} {s t : State} {forest : Forest}

theorem settles_theme (hs : Coherent p s) (hplain : s.context.Plain)
    (hlist : forest.OnTags fun name attributes =>
      anyHolds (lightNovel o).chapters.container name attributes = false)
    (h : s.run (lightNovel o) p forest.events = .ok t) : Context.Settles s.context t.context :=
  settles_of_contained (show "p" ∉ ["div", "script"] by decide)
    (show "br" ∉ ["div", "script"] by decide) forest
    (fun name attributes hmem => contained_lightNovel (hlist name attributes hmem)) hs hplain h

theorem idle_of_run_theme (hs : Coherent p s) (hm : s.mode = .idle)
    (hlist : forest.OnTags fun name attributes =>
      anyHolds (lightNovel o).chapters.container name attributes = false)
    (h : s.run (lightNovel o) p forest.events = .ok t) : t.mode = .idle := by
  have hcontext : s.context = .idle := context_eq_idle_iff.2 hm
  have hsettles := settles_theme hs (by rw [hcontext]; trivial) hlist h
  rw [hcontext] at hsettles
  exact context_eq_idle_iff.1 hsettles.eq_idle

end State

end Feuilleton
