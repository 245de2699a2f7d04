import Feuilleton.Proofs.Page.Malformed

/-!
# Repaired pages

Each rule of the repair leaves no work for itself, and none but the last makes new work for another.
The last one takes control characters away, and what they kept apart may then be a tag in doubled
brackets or an attribute with two equals signs. Where it is neither, a page is repaired for good.
-/

namespace Feuilleton.Page

variable {cs : List Char} {c : Char}

/-! ## All rules -/

/-- The text that the last rule gets. -/
def repairMarkup (cs : List Char) : List Char :=
  Text.unifyLineEnds (fixEquals (fixBrackets (removeNull cs)))

theorem text_repairList_eq (cs : List Char) :
    (repairList cs).text = removeControls (repairMarkup cs) := rfl

theorem not_isMalformed_repairMarkup (cs : List Char) : ¬IsMalformed (repairMarkup cs) := by
  rintro (htag | hequals)
  · have hends := (alters_unifyLineEnds (by decide) (by decide) _).occurs_tag htag
    have hbrackets := (alters_fixEquals _).occurs_tag hends
    exact not_occurs_fixBrackets _ hbrackets
  · have hends := (alters_unifyLineEnds (by decide) (by decide) _).occurs_equals hequals
    exact not_occurs_fixEquals _ hends

theorem eq_newline_or_mem_of_mem_repairMarkup (h : c ∈ repairMarkup cs) :
    c = '\n' ∨ c ∈ cs ∧ c ≠ '\r' ∧ c ≠ '\x00' := by
  rcases eq_newline_or_mem_of_mem_unifyLineEnds h with rfl | ⟨hmem, hreturn⟩
  · exact .inl rfl
  · have hkept := mem_of_mem_fixBrackets (mem_of_mem_fixEquals hmem)
    rw [removeNull, List.mem_filter, bne_iff_ne] at hkept
    exact .inr ⟨hkept.1, hreturn, hkept.2⟩

/-- None of the characters that are taken away or replaced. -/
def IsPlain (c : Char) : Prop :=
  c ≠ '\x00' ∧ c ≠ '\r' ∧ isStrayControl c = false

theorem isPlain_of_mem_text (h : c ∈ (repairList cs).text) : IsPlain c := by
  rw [text_repairList_eq, removeControls, List.mem_filter, Bool.not_eq_true'] at h
  rcases eq_newline_or_mem_of_mem_repairMarkup h.1 with rfl | ⟨-, hreturn, hnull⟩
  · exact ⟨by decide, by decide, h.2⟩
  · exact ⟨hnull, hreturn, h.2⟩

/-- Without a warning only those rules have changed the text that give none. -/
theorem text_of_warnings {rules : List Rule} {page : Repaired}
    (h : (rules.foldl Repaired.apply page).warnings = []) :
    page.warnings = [] ∧ (rules.foldl Repaired.apply page).text =
      (rules.filter (·.warning.isNone)).foldl (fun text rule => rule.apply text) page.text := by
  induction rules generalizing page with
  | nil => exact ⟨h, rfl⟩
  | cons rule rules ih =>
      obtain ⟨hwarnings, htext⟩ := ih h
      rw [List.foldl_cons, htext, List.filter_cons]
      by_cases hsame : rule.apply page.text = page.text
      · have hpage : page.warnings = [] := by simpa [Repaired.apply, hsame] using hwarnings
        cases rule.warning.isNone <;> simp [Repaired.apply, hsame, hpage]
      · have hboth : page.warnings = [] ∧ rule.warning = none := by
          simpa [Repaired.apply, hsame] using hwarnings
        simp [Repaired.apply, hboth]

theorem foldl_apply_eq_self {rules : List Rule} {warnings : List String}
    (h : ∀ rule ∈ rules, rule.apply cs = cs) :
    rules.foldl Repaired.apply ⟨cs, warnings⟩ = ⟨cs, warnings⟩ := by
  induction rules with
  | nil => rfl
  | cons rule rules ih =>
      rw [List.forall_mem_cons] at h
      have hsame : Repaired.apply ⟨cs, warnings⟩ rule = ⟨cs, warnings⟩ := by
        simp [Repaired.apply, h.1]
      rw [List.foldl_cons, hsame, ih h.2]

theorem warnings_ne_nil {front back : List Rule} {rule : Rule}
    (hrules : rules = front ++ rule :: back) (hfront : ∀ rule ∈ front, rule.apply cs = cs)
    (hchanged : rule.apply cs ≠ cs) (hwarning : rule.warning ≠ none) :
    (repairList cs).warnings ≠ [] := by
  intro h
  rw [repairList, hrules, List.foldl_append, foldl_apply_eq_self hfront, List.foldl_cons] at h
  have hrule := (text_of_warnings h).1
  simp [Repaired.apply, hchanged] at hrule
  exact hwarning hrule

theorem repairList_eq_self_iff (hplain : ∀ c ∈ cs, IsPlain c) :
    repairList cs = ⟨cs, []⟩ ↔ ¬IsMalformed cs := by
  have hnull : removeNull cs = cs := by
    apply List.filter_eq_self.2
    intro c hc
    simpa using (hplain c hc).1
  have hends : Text.unifyLineEnds cs = cs := by
    apply unifyLineEnds_eq_self_of_notMem
    intro hmem
    exact (hplain _ hmem).2.1 rfl
  have hcontrols : removeControls cs = cs := by
    apply List.filter_eq_self.2
    intro c hc
    simpa using (hplain c hc).2.2
  constructor
  · intro h hmalformed
    have hwarnings : (repairList cs).warnings = [] := by rw [h]
    by_cases hbrackets : fixBrackets cs = cs
    · have hequals : fixEquals cs ≠ cs := by
        intro hequals
        rw [fixBrackets_eq_self_iff] at hbrackets
        rw [fixEquals_eq_self_iff] at hequals
        exact hmalformed.elim hbrackets hequals
      have hrules : rules = [⟨removeNull, _⟩, ⟨fixBrackets, _⟩] ++ ⟨fixEquals, _⟩ :: _ := rfl
      exact warnings_ne_nil hrules (by simp [hnull, hbrackets]) hequals (by simp) hwarnings
    · have hrules : rules = [⟨removeNull, _⟩] ++ ⟨fixBrackets, _⟩ :: _ := rfl
      exact warnings_ne_nil hrules (by simp [hnull]) hbrackets (by simp) hwarnings
  · intro h
    rw [IsMalformed, not_or] at h
    apply foldl_apply_eq_self
    simp [rules, hnull, hends, hcontrols, fixBrackets_eq_self h.1, fixEquals_eq_self h.2]

/-! ## Repairing again -/

theorem repair_eq_self_iff {page : String} :
    repair page = (page, []) ↔ repairList page.toList = ⟨page.toList, []⟩ := by
  constructor
  · intro h
    obtain ⟨hbody, hwarnings⟩ := Prod.mk.inj h
    have htext : (repairList page.toList).text = page.toList := by
      rw [← String.toList_ofList (l := (repairList page.toList).text), hbody]
    exact congrArg₂ Repaired.mk htext hwarnings
  · intro h
    rw [repair, h, String.ofList_toList]

/-- The page is repaired for good, and nothing is left of what the rules repair. -/
structure StaysRepaired (html : String) : Prop where
  again : repair (repair html).1 = ((repair html).1, [])
  plain : ∀ c ∈ (repair html).1.toList, IsPlain c
  tags : ¬Occurs BeginsDoubledTag (repair html).1.toList
  equals : ¬Occurs BeginsDoubledEquals (repair html).1.toList

/-- Only control characters keep the text from having a malformed tag or attribute. -/
def HidesMalformed (cs : List Char) : Prop :=
  ¬IsMalformed cs ∧ IsMalformed (removeControls cs)

theorem toList_repair (html : String) :
    (repair html).1.toList = removeControls (repairMarkup html.toList) := by
  rw [repair, String.toList_ofList, text_repairList_eq]

theorem staysRepaired_iff_not_isMalformed {html : String} :
    StaysRepaired html ↔ ¬IsMalformed (removeControls (repairMarkup html.toList)) := by
  have hplain : ∀ c ∈ (repair html).1.toList, IsPlain c := by
    intro c hc
    rw [toList_repair, ← text_repairList_eq] at hc
    exact isPlain_of_mem_text hc
  rw [← toList_repair]
  constructor
  · rintro h (htag | hequals)
    · exact h.tags htag
    · exact h.equals hequals
  · intro h
    have hagain := (repairList_eq_self_iff hplain).2 h
    exact ⟨repair_eq_self_iff.2 hagain, hplain, fun htag => h (.inl htag),
      fun hequals => h (.inr hequals)⟩

/-- A page is repaired for good unless control characters hide what is malformed in it. A page
without control characters always is. -/
theorem staysRepaired_iff (html : String) :
    (StaysRepaired html ↔ ¬HidesMalformed (repairMarkup html.toList)) ∧
      ((∀ c ∈ html.toList, isStrayControl c = false) → StaysRepaired html) := by
  have hclean := not_isMalformed_repairMarkup html.toList
  constructor
  · rw [staysRepaired_iff_not_isMalformed, HidesMalformed, and_iff_right hclean]
  · intro hnone
    have hsame : removeControls (repairMarkup html.toList) = repairMarkup html.toList := by
      apply List.filter_eq_self.2
      intro c hc
      rcases eq_newline_or_mem_of_mem_repairMarkup hc with rfl | ⟨hmem, -⟩
      · decide
      · simp [hnone c hmem]
    rw [staysRepaired_iff_not_isMalformed, hsame]
    exact hclean

theorem not_staysRepaired_partedBrackets : ¬StaysRepaired "<\x01<b>>" := by
  intro h
  have hbody : (repair "<\x01<b>>").1 = "<<b>>" := by decide +kernel
  have hagain : repair "<<b>>" = ("<b>", ["Fixed double angle brackets"]) := by decide +kernel
  have hsame := h.again
  rw [hbody, hagain] at hsame
  exact absurd (congrArg Prod.fst hsame) (by decide)

end Feuilleton.Page
