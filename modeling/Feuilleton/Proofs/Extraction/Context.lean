import Feuilleton.Proofs.Extraction.Coherence
import Feuilleton.Proofs.Markup.Forest

/-!
# Contexts

The context of a state is what decides how a close tag is taken. A balanced forest either leaves
the context in which it began or comes back to it, so that no context outlives its element.
-/

namespace Feuilleton

/-- The part of the page that is being read, with the tags that end it and what it has open. A
label that began with its container has no tag. The flag of an item says if a cell is being
read. -/
inductive Context
  | idle
  | field (endTag : Option String)
  | genres (link : Option String)
  | summary (container : String) (depth : Nat)
  | info (endTag : String) (label : Option (Option String))
  | chapters (endTag : String) (item : Option (String × Bool))
  deriving DecidableEq, Repr

def State.context (s : State) : Context :=
  match s.mode with
  | .idle => .idle
  | .title | .rating => .field s.fieldEndTag
  | .genres => .genres s.genres.readingTag
  | .summary => .summary s.summary.containerTag s.summary.depth
  | .info => .info s.info.endTag (if s.info.readingLabel then some s.info.labelTag else none)
  | .chapters =>
      .chapters s.chapters.endTag
        (s.chapters.draft.map fun draft => (draft.itemTag, s.chapters.activeCell.isSome))

theorem State.context_eq_idle_iff {s : State} : s.context = .idle ↔ s.mode = .idle := by
  unfold State.context
  cases s.mode <;> simp

theorem State.mode_of_context {s : State} {endTag : String} {item : Option (String × Bool)}
    (h : s.context = .chapters endTag item) : s.mode = .chapters := by
  unfold State.context at h
  cases hm : s.mode <;> rw [hm] at h <;> first | rfl | cases h

theorem State.mode_of_summary {s : State} {container : String} {depth : Nat}
    (h : s.context = .summary container depth) : s.mode = .summary := by
  unfold State.context at h
  cases hm : s.mode <;> rw [hm] at h <;> first | rfl | cases h

/-- The close tag of such an element breaks a summary and ends nothing in it. -/
def isBreak (tag : String) : Bool :=
  tag == "p" || tag == "br"

namespace Context

variable {g : Grammar} {name container : String} {attributes : Attributes} {c c₁ c₂ : Context}
  {depth : Nat}

/-! ## Open tags -/

def countsFor (g : Grammar) (container name : String) : Bool :=
  g.summary.boundaryTags.contains name || name == container

def chaptersEnd (g : Grammar) (name : String) : String :=
  match g.chapters.endTag with
  | some tag => if tag.isEmpty then name else tag
  | none => name

theorem chaptersEnd_eq (h : g.chapters.endTag = none ∨ g.chapters.endTag = some "")
    (name : String) : chaptersEnd g name = name := by
  rcases h with h | h <;> simp [chaptersEnd, h]

/-- The contexts to which an open tag may lead. -/
inductive Opens (g : Grammar) (name : String) (attributes : Attributes) : Context → Context → Prop
  | idle : Opens g name attributes .idle .idle
  | enterField : Opens g name attributes .idle (.field (some name))
  | enterGenres : Opens g name attributes .idle (.genres none)
  | enterSummary : anyHolds g.summary.container name attributes →
      Opens g name attributes .idle (.summary name 1)
  | enterInfo (label : Option (Option String)) : label = none ∨ label = some none →
      Opens g name attributes .idle (.info name label)
  | enterChapters : anyHolds g.chapters.container name attributes →
      Opens g name attributes .idle (.chapters (chaptersEnd g name) none)
  | field (endTag : Option String) : Opens g name attributes (.field endTag) (.field endTag)
  | genres (link : Option String) : Opens g name attributes (.genres link) (.genres link)
  | link : Opens g name attributes (.genres none) (.genres (some name))
  | boundary (container : String) (depth : Nat) : countsFor g container name = true →
      Opens g name attributes (.summary container depth) (.summary container (depth + 1))
  | prose (container : String) (depth : Nat) : countsFor g container name = false →
      Opens g name attributes (.summary container depth) (.summary container depth)
  | info (endTag : String) (label : Option (Option String)) :
      Opens g name attributes (.info endTag label) (.info endTag label)
  | label (endTag : String) (label : Option (Option String)) :
      Opens g name attributes (.info endTag label) (.info endTag (some (some name)))
  | chapters (endTag : String) (item : Option (String × Bool)) :
      Opens g name attributes (.chapters endTag item) (.chapters endTag item)
  | item (endTag : String) :
      Opens g name attributes (.chapters endTag none) (.chapters endTag (some (name, false)))
  | cell (endTag tag : String) (reading : Bool) :
      Opens g name attributes (.chapters endTag (some (tag, reading)))
        (.chapters endTag (some (tag, true)))

/-! ## Close tags -/

def close (g : Grammar) (name : String) : Context → Context
  | idle => idle
  | field endTag => if endTag = some name then idle else field endTag
  | genres none => idle
  | genres (some link) => if name = link then genres none else genres (some link)
  | summary container depth =>
      if name = "p" ∨ name = "br" ∨ countsFor g container name = false then
        summary container depth
      else if depth - 1 = 0 then idle
      else summary container (depth - 1)
  | info endTag (some (some tag)) =>
      if tag = name then info endTag none else info endTag (some (some tag))
  | info endTag label => if name = endTag then idle else info endTag label
  | chapters endTag (some (tag, true)) => chapters endTag (some (tag, false))
  | chapters endTag (some (tag, false)) =>
      if name = tag then chapters endTag none else chapters endTag (some (tag, false))
  | chapters endTag none => if name = endTag then idle else chapters endTag none

theorem close_break (h : isBreak name = true) :
    close g name (summary container depth) = summary container depth := by
  have hname : name = "p" ∨ name = "br" := by simpa [isBreak] using h
  rcases hname with rfl | rfl <;> simp [close]

theorem close_prose (hcount : countsFor g container name = false) :
    close g name (summary container depth) = summary container depth := by
  simp [close, hcount]

theorem close_boundary (h : isBreak name = false) (hcount : countsFor g container name = true) :
    close g name (summary container (depth + 1)) =
      if depth = 0 then idle else summary container depth := by
  have hname : name ≠ "p" ∧ name ≠ "br" := by simpa [isBreak] using h
  simp [close, hname, hcount]

/-! ## What a forest leaves of a context -/

/-- The context is kept, left, or kept with less open in it. -/
inductive Settles : Context → Context → Prop
  | refl (c : Context) : Settles c c
  | left (c : Context) : Settles c idle
  | link (tag : String) : Settles (genres (some tag)) (genres none)
  | label (endTag : String) (tag : Option String) :
      Settles (info endTag (some tag)) (info endTag none)
  | item (endTag tag : String) (reading : Bool) :
      Settles (chapters endTag (some (tag, reading))) (chapters endTag none)
  | cell (endTag tag : String) :
      Settles (chapters endTag (some (tag, true))) (chapters endTag (some (tag, false)))

theorem Settles.trans (h₁ : Settles c c₁) (h₂ : Settles c₁ c₂) : Settles c c₂ := by
  cases h₁ with
  | refl => exact h₂
  | left => cases h₂ <;> exact .left _
  | link tag => cases h₂ <;> constructor
  | label endTag tag => cases h₂ <;> constructor
  | item endTag tag reading => cases h₂ <;> constructor
  | cell endTag tag => cases h₂ <;> constructor

theorem Settles.eq_idle (h : Settles idle c) : c = idle := by
  cases h <;> rfl

/-- The tag of a summary container must not be read as a line or paragraph break. -/
def Plain : Context → Prop
  | summary container _ => container ≠ "p" ∧ container ≠ "br"
  | _ => True

theorem Plain.of_settles (hc : c.Plain) (h : Settles c c₁) : c₁.Plain := by
  cases h with
  | refl => exact hc
  | _ => trivial

theorem Plain.of_opens (hc : c.Plain) (h : Opens g name attributes c c₁)
    (hname : anyHolds g.summary.container name attributes → name ≠ "p" ∧ name ≠ "br") :
    c₁.Plain := by
  cases h with
  | enterSummary hcontainer => exact hname hcontainer
  | boundary => exact hc
  | prose => exact hc
  | _ => trivial

/-! ## Elements -/

theorem not_isBreak_of_countsFor (hp : "p" ∉ g.summary.boundaryTags)
    (hbr : "br" ∉ g.summary.boundaryTags) (hc : container ≠ "p" ∧ container ≠ "br")
    (hcount : countsFor g container name = true) : isBreak name = false := by
  have hname : name ≠ "p" ∧ name ≠ "br" := by
    simp only [countsFor, Bool.or_eq_true, List.contains_iff_mem, beq_iff_eq] at hcount
    rcases hcount with hmem | rfl
    · exact ⟨fun h => hp (h ▸ hmem), fun h => hbr (h ▸ hmem)⟩
    · exact hc
  simp [isBreak, hname]

/-- Outside of a summary a close tag alone takes from a context at most. -/
theorem settles_close (hc : ∀ container depth, c ≠ summary container depth) :
    Settles c (c.close g name) := by
  cases c with
  | idle => exact .refl _
  | field endTag =>
      simp only [close]
      split
      · exact .left _
      · exact .refl _
  | genres link =>
      cases link with
      | none => exact .left _
      | some tag =>
          simp only [close]
          split
          · exact .link tag
          · exact .refl _
  | summary container depth => exact absurd rfl (hc container depth)
  | info endTag label =>
      rcases label with _ | _ | tag <;> simp only [close] <;> split
      · exact .left _
      · exact .refl _
      · exact .left _
      · exact .refl _
      · exact .label endTag (some tag)
      · exact .refl _
  | chapters endTag item =>
      rcases item with _ | ⟨tag, _ | _⟩ <;> simp only [close]
      · split
        · exact .left _
        · exact .refl _
      · split
        · exact .item endTag tag false
        · exact .refl _
      · exact .cell endTag tag

/-- An open tag that begins nothing leaves the close tag of its element to the context. -/
theorem Settles.close_of_kept (hc : ∀ container depth, c ≠ summary container depth)
    (h : Settles c c₁) : Settles c (c₁.close g name) := by
  refine h.trans (settles_close ?_)
  cases h with
  | refl => exact hc
  | _ => simp

/-- An element settles the context around it: what its open tag began is over with its close tag,
whether the inside left it early or not. -/
theorem Settles.close_of_opens
    (hend : anyHolds g.chapters.container name attributes →
      c₁ = chapters (chaptersEnd g name) none → chaptersEnd g name = name)
    (hp : "p" ∉ g.summary.boundaryTags) (hbr : "br" ∉ g.summary.boundaryTags)
    (hplain : c.Plain) (hplain₁ : c₁.Plain) (hopen : Opens g name attributes c c₁)
    (h : Settles c₁ c₂) : Settles c (c₂.close g name) := by
  cases hopen with
  | idle => exact h.close_of_kept (by simp)
  | enterField => cases h <;> simp [close, Settles.refl]
  | enterGenres => cases h <;> exact .refl _
  | enterSummary =>
      cases h with
      | refl =>
          have hcount : countsFor g name name = true := by simp [countsFor]
          rw [close_boundary (not_isBreak_of_countsFor hp hbr hplain₁ hcount) hcount]
          exact .refl _
      | left => exact .refl _
  | enterInfo label hlabel =>
      rcases hlabel with rfl | rfl <;> cases h <;> simp [close, Settles.refl]
  | enterChapters hlist =>
      rw [hend hlist rfl] at h
      cases h <;> simp [close, Settles.refl]
  | field endTag => exact h.close_of_kept (by simp)
  | genres link => exact h.close_of_kept (by simp)
  | link =>
      cases h with
      | refl => simp [close, Settles.refl]
      | left => exact .left _
      | link tag => exact .left _
  | boundary container depth hcount =>
      cases h with
      | refl =>
          rw [close_boundary (not_isBreak_of_countsFor hp hbr hplain hcount) hcount]
          split
          · exact .left _
          · exact .refl _
      | left => exact .left _
  | prose container depth hcount =>
      cases h with
      | refl => simp [close, hcount, Settles.refl]
      | left => exact .left _
  | info endTag label => exact h.close_of_kept (by simp)
  | label endTag label =>
      have hnone : Settles (info endTag label) (info endTag none) := by
        cases label with
        | none => exact .refl _
        | some tag => exact .label endTag tag
      cases h with
      | refl => simpa [close] using hnone
      | left => exact .left _
      | label => exact hnone.trans (settles_close (by simp))
  | chapters endTag item => exact h.close_of_kept (by simp)
  | item endTag =>
      cases h with
      | refl => simp [close, Settles.refl]
      | left => exact .left _
      | item => exact settles_close (by simp)
  | cell endTag tag reading =>
      have hread : Settles (chapters endTag (some (tag, reading)))
          (chapters endTag (some (tag, false))) := by
        cases reading with
        | false => exact .refl _
        | true => exact .cell endTag tag
      cases h with
      | refl => exact hread
      | left => exact .left _
      | item => exact (Settles.item endTag tag reading).trans (settles_close (by simp))
      | cell => exact hread.trans (settles_close (by simp))

end Context

namespace State

open Context

variable {g : Grammar} {p : Policy} {s t : State} {name : String} {attributes : Attributes}

/-! ## Contexts along a run -/

theorem context_captureCover :
    (s.captureCover g name attributes).context = s.context := by
  unfold captureCover
  split <;> rfl

theorem opens_openIdle (hs : Coherent p s) (hm : s.mode = .idle) :
    Opens g name attributes .idle (s.openIdle g name attributes).context := by
  have hdraft : s.chapters.draft = none := (hs.atRest (.inl hm)).draft
  have hidle : s.context = .idle := context_eq_idle_iff.2 hm
  unfold openIdle
  split
  · exact .enterGenres
  split
  · rename_i hsummary
    exact .enterSummary hsummary
  split
  · exact .enterInfo none (.inl rfl)
  split
  · exact .enterInfo (some none) (.inr rfl)
  split
  · rename_i hlist
    have hchapters : (s.enterChapters g name).context = .chapters (chaptersEnd g name) none := by
      simp only [context, enterChapters, chaptersEnd, hdraft]
      rfl
    rw [hchapters]
    exact .enterChapters hlist
  split
  · exact .enterField
  split
  · unfold enterRating
    split
    · rename_i rating hrating
      have hrated :
          ({ s with work := { s.work with rating := some rating } } : State).context = .idle :=
        context_eq_idle_iff.2 hm
      rw [hrated]
      exact .idle
    · exact .enterField
  · rw [hidle]
    exact .idle

theorem opens_openChapters (hm : s.mode = .chapters) :
    Opens g name attributes s.context (s.openChapters g name attributes).context := by
  unfold openChapters
  split
  · rename_i hdraft
    unfold openItem
    split
    · simp only [context, hm, hdraft, Option.map_none, Option.map_some]
      exact .item _
    · simp only [context, hm]
      exact .chapters _ _
  · rename_i draft hdraft
    split
    · simp only [context, hm, hdraft, Option.map_some]
      exact .chapters _ _
    split
    · simp only [context, hm, hdraft, Option.map_some]
      exact .cell _ _ _
    · simp only [context, hm]
      exact .chapters _ _

theorem opens_stepOpened (hs : Coherent p s) :
    Opens g name attributes s.context (s.stepOpened g name attributes).context := by
  have hcover : Coherent p (s.captureCover g name attributes) := coherent_captureCover hs
  have hcontext : (s.captureCover g name attributes).context = s.context :=
    context_captureCover
  rw [← hcontext]
  unfold stepOpened
  generalize s.captureCover g name attributes = c at hcover ⊢
  dsimp only
  cases hm : c.mode with
  | idle =>
      rw [context_eq_idle_iff.2 hm]
      exact opens_openIdle hcover hm
  | title => simp only [context, hm]; exact .field _
  | rating => simp only [context, hm]; exact .field _
  | genres =>
      simp only [openGenres]
      split
      · rename_i hlink
        simp only [Bool.and_eq_true, Option.isNone_iff_eq_none] at hlink
        simp only [context, hm, hlink.1]
        exact .link
      · simp only [context, hm]
        exact .genres _
  | summary =>
      simp only [openSummary]
      split
      · rename_i hcount
        simp only [context, hm]
        exact .boundary _ _ hcount
      · rename_i hcount
        simp only [context, hm]
        exact .prose _ _ (by simpa [countsFor, isBoundary] using hcount)
  | info =>
      simp only [openInfo]
      split
      · simp only [context, hm, ↓reduceIte]
        exact .label _ _
      · simp only [context, hm]
        exact .info _ _
  | chapters => exact opens_openChapters hm

theorem context_stepText {content : String} (h : s.stepText g content = .ok t) :
    t.context = s.context := by
  unfold stepText at h
  cases hm : s.mode with
  | idle => rw [hm] at h; cases h; rfl
  | title => rw [hm] at h; cases h; rfl
  | rating => rw [hm] at h; cases h; rfl
  | genres =>
      rw [hm] at h; cases h
      unfold textGenres
      split <;> simp [context, hm]
  | summary =>
      rw [hm] at h; cases h
      unfold textSummary
      split <;> simp [context, hm, appendSummary]
  | info =>
      rw [hm] at h; cases h
      unfold textInfo
      split <;> simp [context, hm]
  | chapters =>
      rw [hm] at h
      obtain rfl | ⟨draft, draft', paid, seen, hdraft, htag, rfl⟩ := textChapters_eq_ok h
      · rfl
      · simp [context, hm, hdraft, htag]

theorem context_closeGenres (hm : s.mode = .genres) :
    (s.closeGenres name).context = s.context.close g name := by
  cases hlink : s.genres.readingTag with
  | none => simp [closeGenres, hlink, context, hm, close, enter]
  | some tag =>
      by_cases h : name = tag
      · simp [closeGenres, hlink, context, hm, close, h]
      · simp [closeGenres, hlink, context, hm, close, h]

theorem context_closeSummary (hm : s.mode = .summary) :
    (s.closeSummary g name).context = s.context.close g name := by
  have hcount : countsFor g s.summary.containerTag name = s.isBoundary g name := rfl
  by_cases hp : name = "p"
  · simp [closeSummary, appendSummary, context, hm, close, hp]
  by_cases hbr : name = "br"
  · simp [closeSummary, appendSummary, context, hm, close, hbr]
  cases hboundary : s.isBoundary g name with
  | false => simp [closeSummary, context, hm, close, hp, hbr, hcount, hboundary]
  | true =>
      by_cases hdepth : s.summary.depth - 1 = 0
      · simp [closeSummary, context, hm, close, hp, hbr, hcount, hboundary, hdepth]
      · simp [closeSummary, context, hm, close, hp, hbr, hcount, hboundary, hdepth]

theorem context_closeInfo (hm : s.mode = .info) :
    (s.closeInfo name).context = s.context.close g name := by
  cases hreading : s.info.readingLabel with
  | false =>
      by_cases h : name = s.info.endTag
      · simp [closeInfo, context, hm, close, hreading, h]
      · simp [closeInfo, context, hm, close, hreading, h]
  | true =>
      cases hlabel : s.info.labelTag with
      | none =>
          by_cases h : name = s.info.endTag
          · simp [closeInfo, context, hm, close, hreading, hlabel, h]
          · simp [closeInfo, context, hm, close, hreading, hlabel, h]
      | some tag =>
          by_cases h : tag = name
          · simp [closeInfo, context, hm, close, hreading, hlabel, h]
          · simp [closeInfo, context, hm, close, hreading, hlabel, h]

theorem context_closeChapters (hm : s.mode = .chapters) :
    (s.closeChapters g p name).context = s.context.close g name := by
  cases hdraft : s.chapters.draft with
  | none =>
      by_cases h : name = s.chapters.endTag
      · simp [closeChapters, context, hm, close, hdraft, enter, h]
      · simp [closeChapters, context, hm, close, hdraft, h]
  | some draft =>
      cases hcell : s.chapters.activeCell with
      | some cell => simp [closeChapters, context, hm, close, hdraft, hcell]
      | none =>
          by_cases h : name = draft.itemTag
          · simp [closeChapters, context, hm, close, hdraft, hcell, h]
          · simp [closeChapters, context, hm, close, hdraft, hcell, h]

theorem context_stepClosed :
    (s.stepClosed g p name).context = s.context.close g name := by
  unfold stepClosed
  cases hm : s.mode with
  | idle => simp [context, hm, close]
  | title =>
      by_cases h : s.fieldEndTag = some name
      · simp [closeTitle, context, hm, close, h]
      · simp [closeTitle, context, hm, close, h]
  | rating =>
      by_cases h : s.fieldEndTag = some name
      · simp [closeRating, context, hm, close, h]
      · simp [closeRating, context, hm, close, h]
  | genres => exact context_closeGenres hm
  | summary => exact context_closeSummary hm
  | info => exact context_closeInfo hm
  | chapters => exact context_closeChapters hm

end State

end Feuilleton
