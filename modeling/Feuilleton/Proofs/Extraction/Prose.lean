import Feuilleton.Proofs.Extraction.Quiet
import Feuilleton.Proofs.Extraction.Run
import Feuilleton.Proofs.Markup.Forest

/-!
# Prose

A balanced forest inside a summary is prose and nothing else but cover images: whatever its tags
would begin elsewhere, it adds its text to the summary, and the matching close tag ends the summary.
-/

namespace Feuilleton

def breakText (name : String) : String :=
  if name = "p" then "\n\n" else if name = "br" then "\n" else ""

/-- The texts that are not blank and not inside a boundary tag, and the breaks at every depth. -/
def Forest.prose (isBoundary : String → Bool) (plain : Bool) : Forest → String
  | .nil => ""
  | .text content rest =>
      (if plain && !Text.isBlankText content then content else "") ++ rest.prose isBoundary plain
  | .element name _ inner rest =>
      inner.prose isBoundary (plain && !isBoundary name) ++ breakText name ++
        rest.prose isBoundary plain

namespace State

variable {g : Grammar} {p : Policy} {s : State} {name content : String} {attributes : Attributes}

/-- The state with more text in its summary, some events later. -/
def addProse (text : String) (events : Nat) (s : State) : State :=
  { s with work := { s.work with summary := s.work.summary ++ text }, seen := s.seen + events }

def atDepth (depth : Nat) (s : State) : State :=
  { s with summary := { s.summary with depth } }

theorem addProse_addProse (first rest : String) (m n : Nat) :
    (s.addProse first m).addProse rest n = s.addProse (first ++ rest) (m + n) := by
  simp [addProse, String.append_assoc, Nat.add_assoc]

/-! ## Covers -/

/-- The state with the cover and the name that the images among the tags of a forest give. -/
def captureCovers (g : Grammar) : Forest → State → State
  | .nil, s => s
  | .text _ rest, s => captureCovers g rest s
  | .element name attributes inner rest, s =>
      captureCovers g rest (captureCovers g inner (s.captureCover g name attributes))

theorem captureCover_addProse (text : String) (events : Nat) :
    (s.addProse text events).captureCover g name attributes =
      (s.captureCover g name attributes).addProse text events := by
  unfold captureCover
  rw [apply_ite (addProse text events)]
  rfl

theorem captureCover_atDepth (depth : Nat) :
    (s.atDepth depth).captureCover g name attributes =
      (s.captureCover g name attributes).atDepth depth := by
  unfold captureCover
  rw [apply_ite (atDepth depth)]
  rfl

theorem captureCover_count :
    s.count.captureCover g name attributes = (s.captureCover g name attributes).count := by
  unfold captureCover
  rw [apply_ite count]
  rfl

theorem captureCover_enter (mode : Mode) :
    (s.enter mode).captureCover g name attributes =
      (s.captureCover g name attributes).enter mode := by
  unfold captureCover
  rw [apply_ite (enter · mode)]
  rfl

/-- What can be done before or after every single cover can be done before or after all of them. -/
theorem captureCovers_comm {f : State → State}
    (hf : ∀ s name attributes, captureCover g name attributes (f s) =
      f (captureCover g name attributes s)) (forest : Forest) :
    captureCovers g forest (f s) = f (captureCovers g forest s) := by
  induction forest generalizing s with
  | nil => rfl
  | text _ rest ih => exact ih
  | element name attributes inner rest ihInner ihRest =>
      simp only [captureCovers, hf, ihInner, ihRest]

theorem captureCovers_addProse (text : String) (events : Nat) (forest : Forest) :
    captureCovers g forest (s.addProse text events) =
      (captureCovers g forest s).addProse text events :=
  captureCovers_comm (fun _ _ _ => captureCover_addProse text events) forest

theorem captureCovers_atDepth (depth : Nat) (forest : Forest) :
    captureCovers g forest (s.atDepth depth) = (captureCovers g forest s).atDepth depth :=
  captureCovers_comm (fun _ _ _ => captureCover_atDepth depth) forest

theorem summary_captureCover (name : String) (attributes : Attributes) :
    (s.captureCover g name attributes).mode = s.mode ∧
    (s.captureCover g name attributes).summary = s.summary ∧
    (s.captureCover g name attributes).work.summary = s.work.summary := by
  unfold captureCover
  split <;> exact ⟨rfl, rfl, rfl⟩

/-- Covers leave alone what the summary needs. -/
theorem summary_captureCovers (forest : Forest) : (captureCovers g forest s).mode = s.mode ∧
    (captureCovers g forest s).summary = s.summary ∧
    (captureCovers g forest s).work.summary = s.work.summary := by
  induction forest generalizing s with
  | nil => exact ⟨rfl, rfl, rfl⟩
  | text _ rest ih => exact ih
  | element name attributes inner rest ihInner ihRest =>
      simp only [captureCovers, ihRest, ihInner, summary_captureCover, and_self]

theorem captureCovers_of_not_image {forest : Forest} (h : forest.OnTags fun name attributes =>
    anyHolds g.cover.image name attributes = false) : captureCovers g forest s = s := by
  induction forest generalizing s with
  | nil => rfl
  | text _ rest ih => exact ih (Forest.onTags_text.1 h)
  | element name attributes inner rest ihInner ihRest =>
      obtain ⟨htag, hinner, hrest⟩ := Forest.onTags_element.1 h
      rw [captureCovers, captureCover_of_not_image htag, ihInner hinner, ihRest hrest]

/-! ## Single events -/

def deepening (g : Grammar) (s : State) (name : String) : Nat :=
  if s.isBoundary g name then 1 else 0

theorem isBoundary_of_containerTag {t : State}
    (h : s.summary.containerTag = t.summary.containerTag) : s.isBoundary g = t.isBoundary g := by
  funext name
  simp only [isBoundary, h]

theorem step_opened_summary (name : String) (attributes : Attributes) (hm : s.mode = .summary) :
    s.step g p (.opened name attributes) =
      .ok (((s.captureCover g name attributes).atDepth
        (s.summary.depth + s.deepening g name)).addProse "" 1) := by
  obtain ⟨hmode, hsummary, -⟩ := summary_captureCover (g := g) (s := s) name attributes
  rw [hm] at hmode
  have hcounted : (s.captureCover g name attributes).count.mode = .summary := hmode
  have hboundary : (s.captureCover g name attributes).count.isBoundary g = s.isBoundary g :=
    isBoundary_of_containerTag (by rw [← hsummary]; rfl)
  simp only [step, stepOpened, captureCover_count, hcounted, openSummary, deepening, hboundary]
  split <;> simp [count, addProse, atDepth, hsummary, hmode]

theorem step_text_summary (hm : s.mode = .summary) :
    s.step g p (.text content) =
      .ok (s.addProse
        (if s.summary.depth = 1 && !Text.isBlankText content then content else "") 1) := by
  have hcounted : s.count.mode = .summary := hm
  have hdepth : s.count.summary.depth = s.summary.depth := rfl
  simp only [step, stepText, hcounted, textSummary, hdepth]
  split <;> simp [count, addProse, appendSummary, hm]

/-- Inside of the summary a close tag undoes what its open tag did to the depth. -/
theorem step_closed_summary (name : String) {depth : Nat} (hm : s.mode = .summary)
    (hp : s.isBoundary g "p" = false) (hbr : s.isBoundary g "br" = false) (hpos : 0 < depth)
    (hdepth : s.summary.depth = depth + s.deepening g name) :
    s.step g p (.closed name) = .ok ((s.atDepth depth).addProse (breakText name) 1) := by
  have hcounted : s.count.mode = .summary := hm
  have hboundary : s.count.isBoundary g name = s.isBoundary g name := rfl
  simp only [step, stepClosed, hcounted, closeSummary, hboundary]
  unfold deepening at hdepth
  cases hb : s.isBoundary g name with
  | false =>
      have hkept : s.atDepth depth = s := by
        rw [hb] at hdepth
        rw [← show s.summary.depth = depth by simpa using hdepth]
        rfl
      rw [hkept, breakText]
      split
      · rfl
      · split
        · rfl
        · simp [count, addProse]
  | true =>
      have hname : name ≠ "p" ∧ name ≠ "br" := by
        constructor <;> rintro rfl
        · rw [hp] at hb
          contradiction
        · rw [hbr] at hb
          contradiction
      have hrest : s.summary.depth - 1 = depth := by
        rw [hdepth, hb]
        simp
      have hstays : depth ≠ 0 := by omega
      simp [hname, hrest, hstays, breakText, count, addProse, atDepth, hm]

theorem step_closed_inside (name text : String) (events : Nat) (hm : s.mode = .summary)
    (hp : s.isBoundary g "p" = false) (hbr : s.isBoundary g "br" = false)
    (hpos : 0 < s.summary.depth) :
    ((s.atDepth (s.summary.depth + s.deepening g name)).addProse text events).step g p
        (.closed name) = .ok (s.addProse (text ++ breakText name) (events + 1)) := by
  have hclosed := step_closed_summary (g := g) (p := p) name
    (s := (s.atDepth (s.summary.depth + s.deepening g name)).addProse text events) hm hp hbr hpos rfl
  rw [hclosed, ← addProse_addProse]
  rfl

/-- The close tag of its container ends a summary. -/
theorem step_closed_container (name : String) (hm : s.mode = .summary) (hdepth : s.summary.depth = 1)
    (hname : s.summary.containerTag = name) (hp : s.isBoundary g "p" = false)
    (hbr : s.isBoundary g "br" = false) :
    s.step g p (.closed name) = .ok ({ s.atDepth 0 with mode := .idle }.addProse "" 1) := by
  have hcounted : s.count.mode = .summary := hm
  have hcloses : s.count.isBoundary g name = true := by simp [isBoundary, count, hname]
  have hnp : name ≠ "p" := by
    rintro rfl
    exact Bool.false_ne_true (hp.symm.trans hcloses)
  have hnbr : name ≠ "br" := by
    rintro rfl
    exact Bool.false_ne_true (hbr.symm.trans hcloses)
  simp only [step, stepClosed, hcounted, closeSummary, hcloses, hnp, hnbr, ↓reduceIte]
  simp [count, hdepth, atDepth, addProse]

/-! ## Forests -/

theorem plain_inside (name : String) (hpos : 0 < s.summary.depth) :
    decide (s.summary.depth + s.deepening g name = 1) =
      (decide (s.summary.depth = 1) && !s.isBoundary g name) := by
  unfold deepening
  cases s.isBoundary g name with
  | false => simp
  | true => simp; omega

/-- However it is nested, a forest inside of a summary is added as prose, and the summary goes on at
the depth at which it was. -/
theorem run_forest_summary {bounds : String → Bool} {plain : Bool} (forest : Forest)
    (hm : s.mode = .summary) (hpos : 0 < s.summary.depth) (hbounds : s.isBoundary g = bounds)
    (hplain : decide (s.summary.depth = 1) = plain)
    (hp : bounds "p" = false) (hbr : bounds "br" = false) :
    s.run g p forest.events =
      .ok ((captureCovers g forest s).addProse (forest.prose bounds plain)
        forest.events.length) := by
  induction forest generalizing s plain with
  | nil => simp [Forest.events, Forest.prose, captureCovers, addProse]
  | text content rest ih =>
      have htext : s.step g p (.text content) = _ := step_text_summary hm
      rw [hplain] at htext
      have hrest := ih
        (s := s.addProse (if plain && !Text.isBlankText content then content else "") 1)
        hm hpos hbounds hplain
      rw [Forest.events, run_cons_of_step rest.events htext, hrest, captureCovers_addProse,
        addProse_addProse, List.length_cons, Nat.add_comm 1]
      rfl
  | element name attributes inner rest ihInner ihRest =>
      subst hbounds
      have hopened := step_opened_summary (g := g) (p := p) name attributes hm
      -- The inside is one deeper exactly if its tag bounds the summary, and the close tag undoes that.
      have hinside := plain_inside (g := g) name hpos
      rw [hplain] at hinside
      obtain ⟨hmode, hsummary, -⟩ := summary_captureCover (g := g) (s := s) name attributes
      rw [hm] at hmode
      have hinner := ihInner
        (s := ((s.captureCover g name attributes).atDepth
          (s.summary.depth + s.deepening g name)).addProse "" 1)
        hmode (Nat.add_pos_left hpos _) (isBoundary_of_containerTag (by rw [← hsummary]; rfl))
        hinside
      have hcaptured := summary_captureCovers (g := g) (s := s.captureCover g name attributes) inner
      rw [captureCovers_addProse, captureCovers_atDepth, addProse_addProse,
        String.empty_append] at hinner
      rw [hmode, hsummary] at hcaptured
      rw [Forest.events, List.cons_append, run_cons_of_step _ hopened, run_append_of_run _ hinner,
        captureCovers]
      generalize captureCovers g inner (s.captureCover g name attributes) = c at hcaptured ⊢
      obtain ⟨hcmode, hcsummary, -⟩ := hcaptured
      have hbounds : c.isBoundary g = s.isBoundary g :=
        isBoundary_of_containerTag (by rw [hcsummary])
      have hdeepening : c.deepening g name = s.deepening g name := by
        simp only [deepening, hbounds]
      have hclosed := step_closed_inside (g := g) (p := p) name
        (inner.prose (s.isBoundary g) (plain && !s.isBoundary g name)) (1 + inner.events.length)
        hcmode (hbounds ▸ hp) (hbounds ▸ hbr) (hcsummary ▸ hpos)
      rw [hcsummary, hdeepening] at hclosed
      have hrest := ihRest
        (s := c.addProse (inner.prose (s.isBoundary g) (plain && !s.isBoundary g name) ++
          breakText name) (1 + inner.events.length + 1)) hcmode (hcsummary ▸ hpos)
        hbounds (show decide (c.summary.depth = 1) = plain by rw [hcsummary, hplain])
      rw [captureCovers_addProse, addProse_addProse] at hrest
      rw [run_cons_of_step _ hclosed, hrest, Forest.prose]
      congr 2
      simp only [List.length_cons, List.length_append]
      omega

end State

end Feuilleton
