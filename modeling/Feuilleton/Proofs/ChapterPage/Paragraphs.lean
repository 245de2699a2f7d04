import Feuilleton.ChapterPage.Content
import Feuilleton.Proofs.ChapterPage.StyleSheets
import Feuilleton.Proofs.Document.Pruning
import Feuilleton.Proofs.Success

/-!
# Paragraphs of a chapter

A chapter should be the text of the paragraphs that are left when all decoys, advertisements and
scripts are pruned. It is exactly if no decoy has a paragraph inside; otherwise reading the chapter
fails, as the inner paragraph is gone when its turn comes.
-/

namespace Feuilleton.ChapterPage

open Document

variable {g : Grammar} {nodes shown : List Node} {hidden : List String} {text : String}

/-! ## What a chapter should be -/

/-- A paragraph with a class that the page's own style sheets declare, on sites that hide such
paragraphs. -/
def isHidden (g : Grammar) (nodes : List Node) (node : Node) : Bool :=
  g.stripStyleClasses && node.isNamed "p" && node.classes.any (DeclaresClass nodes ·)

/-- Scripts, and advertisements on the same sites. -/
def isUnwanted (g : Grammar) (node : Node) : Bool :=
  (g.stripStyleClasses && node.hasClass advertisementClass) || node.isNamed "script"

def paragraphLines (nodes : List Node) : String :=
  Text.join "\n" (((preorder nodes).filter (·.isNamed "p")).map Node.render)

/-- The text is made of the paragraphs in the container without scripts and advertisements, where
the container is the first one in the page without hidden paragraphs. -/
def IsChapter (g : Grammar) (nodes : List Node) (text : String) : Prop :=
  ∃ shown, IsPruned (isHidden g nodes) nodes shown ∧
    match (preorder shown).find? (·.hasClass g.contentClass) with
    | none => text = ""
    | some container =>
        ∃ inner, IsPruned (isUnwanted g) container.children inner ∧ text = paragraphLines inner

def ReadsChapter (g : Grammar) (nodes : List Node) : Prop :=
  ∃ text, contentOf g nodes = .ok text ∧ IsChapter g nodes text

/-- No hidden paragraph has a paragraph inside. -/
def HidesFlatly (g : Grammar) (nodes : List Node) : Prop :=
  ∀ node ∈ preorder nodes, isHidden g nodes node = true →
    ∀ inner ∈ node.descendants, inner.isNamed "p" = false

/-! ## Pruned pages -/

theorem isShallow_isHidden (g : Grammar) (nodes : List Node) : IsShallow (isHidden g nodes) := by
  intro children node
  cases node <;> rfl

theorem isShallow_isUnwanted (g : Grammar) : IsShallow (isUnwanted g) := by
  intro children node
  cases node <;> rfl

theorem isPruned_iff {unwanted : Node → Bool} (h : IsShallow unwanted) :
    IsPruned unwanted nodes shown ↔ shown = prune unwanted nodes := by
  constructor
  · intro hpruned
    exact hpruned.eq (isPruned_prune h nodes)
  · rintro rfl
    exact isPruned_prune h nodes

theorem prune_none (nodes : List Node) : prune (fun _ => false) nodes = nodes := by
  have hall : IsPruned (fun _ => false) nodes nodes := by
    rw [IsPruned, List.filter_eq_self.2]
    intro line _
    exact List.all_eq_true.2 fun _ _ => rfl
  exact ((isPruned_iff fun _ _ => rfl).1 hall).symm

theorem cleaned_eq (g : Grammar) (container : Node) :
    cleaned g container = prune (isUnwanted g) container.children := by
  have hscript : IsShallow (·.isNamed "script") := by
    intro children node
    cases node <;> rfl
  have hunwanted : isUnwanted g = fun node =>
      (g.stripStyleClasses && node.hasClass advertisementClass) || node.isNamed "script" := rfl
  rw [cleaned, removeAll_eq_prune, removeAll_eq_prune, hunwanted, ← prune_prune hscript]
  cases g.stripStyleClasses with
  | true => simp
  | false => simp [prune_none]

/-! ## Decoys -/

theorem isHidden_eq (h : g.stripStyleClasses = true) :
    isHidden g nodes = isDecoy (hiddenClasses nodes) := by
  funext node
  have hdeclares (name : String) :
      decide (DeclaresClass nodes name) = (hiddenClasses nodes).contains name := by
    rw [List.contains_eq_mem, decide_eq_decide, mem_hiddenClasses_iff]
  simp only [isHidden, isDecoy, isParagraph, h, Bool.true_and, hdeclares]

theorem isGone_cons (span : Span) (gone : List Span) (number : Nat) :
    isGone (span :: gone) number = (span.holds number || isGone gone number) :=
  List.any_cons

/-- A list of paragraphs is gone through to its end exactly if none of them was gone before or goes
with an earlier decoy. -/
theorem foldlM_dropDecoy_eq_ok_iff {final : List Span} (paragraphs : List Numbered)
    (gone : List Span) : paragraphs.foldlM (dropDecoy hidden) gone = .ok final ↔
      (∀ paragraph ∈ paragraphs, isGone gone paragraph.2 = false) ∧
        paragraphs.Pairwise (fun first second =>
          isDecoy hidden first.1 = true → (spanOf first).holds second.2 = false) ∧
        final = ((paragraphs.filter (isDecoy hidden ·.1)).map spanOf).reverse ++ gone := by
  induction paragraphs generalizing gone with
  | nil =>
      simpa [pure, Except.pure] using eq_comm
  | cons paragraph paragraphs ih =>
      rw [List.foldlM_cons, List.forall_mem_cons, List.pairwise_cons, dropDecoy]
      cases hgone : isGone gone paragraph.2 with
      | true => simp [bind, Except.bind]
      | false =>
          cases hdecoy : isDecoy hidden paragraph.1 with
          | false =>
              simp only [Bool.false_eq_true, if_false, false_imp_iff, implies_true, true_and]
              rw [List.filter_cons_of_neg (by simp [hdecoy])]
              exact ih gone
          | true =>
              -- The span of this decoy joins those which later paragraphs must stand outside of.
              rw [List.filter_cons_of_pos (by exact hdecoy)]
              simp only [Bool.false_eq_true, if_false, if_true, true_imp_iff, true_and]
              refine (ih (spanOf paragraph :: gone)).trans ?_
              simp only [isGone_cons, Bool.or_eq_false_iff, imp_and, forall_and, List.map_cons,
                List.reverse_cons, List.append_assoc, List.singleton_append]
              constructor
              · rintro ⟨⟨hapart, hfree⟩, hrest, rfl⟩
                exact ⟨hfree, ⟨hapart, hrest⟩, rfl⟩
              · rintro ⟨hfree, ⟨hapart, hrest⟩, rfl⟩
                exact ⟨⟨hapart, hfree⟩, hrest, rfl⟩

theorem eq_removedParagraph_of_foldlM {failure : Failure} {paragraphs : List Numbered}
    {gone : List Span} (h : paragraphs.foldlM (dropDecoy hidden) gone = .error failure) :
    failure = .removedParagraph := by
  induction paragraphs generalizing gone with
  | nil => cases h
  | cons paragraph paragraphs ih =>
      rw [List.foldlM_cons, bind_eq_error_iff] at h
      rcases h with hfirst | ⟨left, -, hrest⟩
      · rw [dropDecoy] at hfirst
        split at hfirst
        · exact (Except.error.inj hfirst).symm
        · cases hfirst
      · exact ih hrest

theorem isParagraph_of_isDecoy {node : Node} (h : isDecoy hidden node = true) :
    isParagraph node = true :=
  (Bool.and_eq_true_iff.1 h).1

/-- No paragraph goes with an earlier decoy exactly if none stands inside one. -/
theorem pairwise_paragraphs_iff (hidden : List String) (nodes : List Node) :
    ((numberedFrom 0 nodes).filter (isParagraph ·.1)).Pairwise (fun first second =>
        isDecoy hidden first.1 = true → (spanOf first).holds second.2 = false) ↔
      ∀ node ∈ preorder nodes, isDecoy hidden node = true →
        ∀ inner ∈ node.descendants, isParagraph inner = false := by
  rw [← pairwise_numberedFrom_iff 0, List.pairwise_filter]
  apply List.Pairwise.iff
  intro first second
  constructor
  · intro h hdecoy hinner
    exact h (isParagraph_of_isDecoy hdecoy) hinner hdecoy
  · intro h _ hinner hdecoy
    exact h hdecoy hinner

theorem filter_isDecoy_paragraphs (hidden : List String) (entries : List Numbered) :
    (entries.filter (isParagraph ·.1)).filter (isDecoy hidden ·.1) =
      entries.filter (isDecoy hidden ·.1) := by
  rw [List.filter_filter]
  apply List.filter_congr
  intro entry _
  rw [Bool.and_eq_left_iff_imp]
  exact isParagraph_of_isDecoy

/-- Decoys are removed exactly if none of them has a paragraph inside. -/
theorem withoutDecoys_eq_ok_iff : withoutDecoys nodes = .ok shown ↔
    (∀ node ∈ preorder nodes, isDecoy (hiddenClasses nodes) node = true →
      ∀ inner ∈ node.descendants, isParagraph inner = false) ∧
        shown = prune (isDecoy (hiddenClasses nodes)) nodes := by
  rw [← pairwise_paragraphs_iff]
  constructor
  · intro h
    obtain ⟨gone, hgone, hshown⟩ := exists_of_bind_eq_ok h
    obtain ⟨-, hflat, rfl⟩ := (foldlM_dropDecoy_eq_ok_iff _ _).1 hgone
    rw [filter_isDecoy_paragraphs, List.append_nil, remainingFrom_reverse_eq_prune] at hshown
    exact ⟨hflat, (Except.ok.inj hshown).symm⟩
  · rintro ⟨hflat, rfl⟩
    have hgone := (foldlM_dropDecoy_eq_ok_iff _ []).2 ⟨fun _ _ => rfl, hflat, rfl⟩
    rw [withoutDecoys, hgone, filter_isDecoy_paragraphs, List.append_nil]
    exact congrArg Except.ok (remainingFrom_reverse_eq_prune _ nodes)

/-! ## Chapters -/

theorem shownNodes_eq_ok_iff : shownNodes g nodes = .ok shown ↔
    HidesFlatly g nodes ∧ shown = prune (isHidden g nodes) nodes := by
  rw [shownNodes, HidesFlatly]
  cases hstrip : g.stripStyleClasses with
  | true =>
      rw [isHidden_eq hstrip, if_pos rfl]
      exact withoutDecoys_eq_ok_iff
  | false =>
      have hnone : isHidden g nodes = fun _ => false := by
        funext node
        simp [isHidden, hstrip]
      rw [hnone, prune_none, if_neg Bool.false_ne_true, Except.ok.injEq]
      simpa using eq_comm

theorem eq_removedParagraph_of_shownNodes {failure : Failure}
    (h : shownNodes g nodes = .error failure) : failure = .removedParagraph := by
  rw [shownNodes] at h
  split at h
  · rw [withoutDecoys, bind_eq_error_iff] at h
    rcases h with hremoved | ⟨gone, -, hleft⟩
    · exact eq_removedParagraph_of_foldlM hremoved
    · cases hleft
  · cases h

/-- The text of what is left of a page without hidden paragraphs. -/
def shownText (g : Grammar) (shown : List Node) : String :=
  match (preorder shown).find? (·.hasClass g.contentClass) with
  | none => ""
  | some container => paragraphLines (prune (isUnwanted g) container.children)

theorem isChapter_iff :
    IsChapter g nodes text ↔ text = shownText g (prune (isHidden g nodes) nodes) := by
  simp only [IsChapter, isPruned_iff (isShallow_isHidden g nodes), exists_eq_left, shownText]
  split
  · rfl
  · simp only [isPruned_iff (isShallow_isUnwanted g), exists_eq_left]

/-- What a page's chapter should be is settled by the page. -/
theorem existsUnique_isChapter (g : Grammar) (nodes : List Node) :
    ∃! text, IsChapter g nodes text := by
  simp only [isChapter_iff, existsUnique_eq]

theorem contentOf_eq (g : Grammar) (nodes : List Node) :
    contentOf g nodes = (shownNodes g nodes).map (shownText g) := by
  rw [contentOf]
  cases shownNodes g nodes with
  | error failure => rfl
  | ok shown =>
      simp only [bind, Except.bind, Except.map, container?, shownText, paragraphs, cleaned_eq]
      cases (preorder shown).find? (·.hasClass g.contentClass) with
      | none => rfl
      | some container => rfl

/-- No chapter is read if a paragraph has gone with a hidden one before its turn comes. -/
theorem contentOf_of_not_hidesFlatly (h : ¬HidesFlatly g nodes) :
    contentOf g nodes = .error .removedParagraph := by
  rw [contentOf_eq, map_eq_error_iff]
  cases hshown : shownNodes g nodes with
  | ok shown => exact absurd (shownNodes_eq_ok_iff.1 hshown).1 h
  | error failure => rw [eq_removedParagraph_of_shownNodes hshown]

/-- A chapter is read as its text should be, exactly if no hidden paragraph has a paragraph
inside. -/
theorem readsChapter_iff (g : Grammar) (nodes : List Node) :
    ReadsChapter g nodes ↔ HidesFlatly g nodes := by
  constructor
  · rintro ⟨text, hread, -⟩
    by_contra hflat
    rw [contentOf_of_not_hidesFlatly hflat] at hread
    contradiction
  · intro hflat
    refine ⟨_, ?_, isChapter_iff.2 rfl⟩
    rw [contentOf_eq, shownNodes_eq_ok_iff.2 ⟨hflat, rfl⟩]
    rfl

/-- A grammar whose site hides paragraphs from readers. -/
private def decoying : Grammar where
  id := "t"
  sourceName := "T"
  site := "https://e.com/"
  stripStyleClasses := true

/-- A hidden paragraph around an object with a paragraph of its own. -/
private def nested : List Node :=
  [.element "article" ∅ [
    .element "style" ∅ [.text ".a\x7b\x7d"],
    .element "div" { entries := [("class", "epcontent")] } [
      .element "p" { entries := [("class", "a")] } [
        .element "object" ∅ [.element "p" ∅ [.text "n"]]],
      .element "p" ∅ [.text "k"]]]]

/-- The inner paragraph is gone when its turn comes, and no chapter is read. -/
theorem not_readsChapter_nested : contentOf decoying nested = .error .removedParagraph ∧
    IsChapter decoying nested "<p>k</p>" ∧ ¬ReadsChapter decoying nested := by
  have hfails : contentOf decoying nested = .error .removedParagraph := by decide +kernel
  refine ⟨hfails, isChapter_iff.2 (by decide +kernel), ?_⟩
  rintro ⟨text, hread, -⟩
  rw [hfails] at hread
  contradiction

end Feuilleton.ChapterPage
