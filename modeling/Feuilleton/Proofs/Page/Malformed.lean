import Mathlib.Data.List.TakeWhile
import Feuilleton.Page.Repair
import Feuilleton.Proofs.Page.Title

/-!
# Malformed markup

Tags in doubled brackets and attributes with two equals signs. The rule for each leaves none of its
kind, and changes only texts that have one. Neither the rule for attributes nor the one for line ends
makes a new one, since it changes nothing where two marks stand side by side.
-/

namespace Feuilleton.Page

variable {cs ds run : List Char} {c : Char}

/-! ## Malformed tags and attributes -/

/-- The next closing bracket is a doubled one. -/
def ClosesTwice (cs : List Char) : Prop :=
  ['>', '>'] <+: cs.dropWhile (· != '>')

/-- A tag begins here that stands in doubled brackets. -/
def BeginsDoubledTag (cs : List Char) : Prop :=
  ∃ rest, cs = '<' :: '<' :: rest ∧ beginsTag rest = true ∧ ClosesTwice rest

/-- Here a word ends, with two equals signs and a quote behind it. -/
def BeginsDoubledEquals (cs : List Char) : Prop :=
  ∃ c quote rest, cs = c :: '=' :: '=' :: quote :: rest ∧ Text.isWord c = true ∧
    (quote = '"' ∨ quote = '\'')

/-- The text has a place of this kind. -/
def Occurs (P : List Char → Prop) (cs : List Char) : Prop :=
  ∃ tail, tail <:+ cs ∧ P tail

def IsMalformed (cs : List Char) : Prop :=
  Occurs BeginsDoubledTag cs ∨ Occurs BeginsDoubledEquals cs

section Occurs

variable {P : List Char → Prop}

theorem occurs_cons : Occurs P (c :: cs) ↔ P (c :: cs) ∨ Occurs P cs := by
  simp only [Occurs, List.suffix_cons_iff, or_and_right, exists_or, exists_eq_left]

theorem Occurs.of_suffix (h : Occurs P ds) (hpart : ds <:+ cs) : Occurs P cs := by
  obtain ⟨tail, htail, hP⟩ := h
  exact ⟨tail, htail.trans hpart, hP⟩

end Occurs

theorem closesTwice_bracket : ClosesTwice ('>' :: cs) ↔ ∃ rest, cs = '>' :: rest := by
  cases cs with
  | nil => simp [ClosesTwice]
  | cons c rest => simp [ClosesTwice, eq_comm]

theorem closesTwice_cons (hc : c ≠ '>') : ClosesTwice (c :: cs) ↔ ClosesTwice cs := by
  simp [ClosesTwice, hc]

theorem closesTwice_append (h : '>' ∉ run) : ClosesTwice (run ++ cs) ↔ ClosesTwice cs := by
  induction run with
  | nil => rfl
  | cons c run ih =>
      rw [List.mem_cons, not_or] at h
      rw [List.cons_append, closesTwice_cons (Ne.symm h.1), ih h.2]

theorem not_occurs_nil_tag : ¬Occurs BeginsDoubledTag [] := by
  rintro ⟨tail, htail, rest, rfl, -⟩
  simp at htail

theorem not_occurs_nil_equals : ¬Occurs BeginsDoubledEquals [] := by
  rintro ⟨tail, htail, c, quote, rest, rfl, -⟩
  simp at htail

theorem not_beginsDoubledTag (hc : c ≠ '<') : ¬BeginsDoubledTag (c :: cs) := by
  rintro ⟨rest, heq, -⟩
  exact hc (List.cons_eq_cons.1 heq).1

theorem not_beginsDoubledEquals (hc : Text.isWord c = false) : ¬BeginsDoubledEquals (c :: cs) := by
  rintro ⟨d, quote, rest, heq, hd, -⟩
  obtain rfl := (List.cons_eq_cons.1 heq).1
  rw [hc] at hd
  contradiction

/-! ## Changes beside the marks -/

def isTagMark (c : Char) : Bool :=
  c == '<' || c == '>' || c == '/' || isAsciiLetter c

def isAttributeMark (c : Char) : Bool :=
  Text.isWord c || c == '=' || c == '"' || c == '\''

/-- The second text is the first one with other characters between some of the marks. Marks that
had something between them still have. -/
inductive Alters (isMark : Char → Bool) : List Char → List Char → Prop
  | nil : Alters isMark [] []
  | keep (c : Char) {cs ds : List Char} (h : Alters isMark cs ds) :
      Alters isMark (c :: cs) (c :: ds)
  | change {old : List Char} {c : Char} {cs ds : List Char}
      (hold : ∀ d ∈ old, isMark d = false) (hc : isMark c = false) (h : Alters isMark cs ds) :
      Alters isMark (old ++ cs) (c :: ds)

namespace Alters

variable {isMark : Char → Bool}

theorem exists_cons (h : Alters isMark cs (c :: ds)) (hc : isMark c = true) :
    ∃ rest, cs = c :: rest ∧ Alters isMark rest ds := by
  cases h with
  | keep c h => exact ⟨_, rfl, h⟩
  | change hold hother h =>
      rw [hc] at hother
      contradiction

theorem occurs {P : List Char → Prop}
    (hP : ∀ {cs ds}, Alters isMark cs ds → P ds → P cs)
    (hmark : ∀ {c ds}, P (c :: ds) → isMark c = true) (h : Alters isMark cs ds)
    (hds : Occurs P ds) : Occurs P cs := by
  induction h with
  | nil => exact hds
  | keep c h ih =>
      rw [occurs_cons] at hds ⊢
      rcases hds with hhere | hlater
      · exact .inl (hP (.keep c h) hhere)
      · exact .inr (ih hlater)
  | change hold hc h ih =>
      rcases occurs_cons.1 hds with hhere | hlater
      · rw [hmark hhere] at hc
        contradiction
      · exact (ih hlater).of_suffix (List.suffix_append _ _)

theorem beginsTag (h : Alters isTagMark cs ds) (hds : beginsTag ds = true) :
    Page.beginsTag cs = true := by
  cases ds with
  | nil => simp [Page.beginsTag] at hds
  | cons c ds =>
      by_cases hslash : c = '/'
      · subst hslash
        cases ds with
        | nil => exact absurd hds (by decide)
        | cons d ds =>
            have hd : isAsciiLetter d = true := hds
            obtain ⟨behind, rfl, hbehind⟩ := h.exists_cons (by decide)
            obtain ⟨rest, rfl, -⟩ := hbehind.exists_cons (by simp [isTagMark, hd])
            exact hd
      · have hc : isAsciiLetter c = true := by simpa [Page.beginsTag, hslash] using hds
        obtain ⟨rest, rfl, -⟩ := h.exists_cons (by simp [isTagMark, hc])
        simpa [Page.beginsTag, hslash] using hc

theorem closesTwice (h : Alters isTagMark cs ds) (hds : ClosesTwice ds) : ClosesTwice cs := by
  induction h with
  | nil => exact hds
  | keep c h ih =>
      by_cases hc : c = '>'
      · subst hc
        rw [closesTwice_bracket] at hds ⊢
        obtain ⟨rest, rfl⟩ := hds
        obtain ⟨rest, rfl, -⟩ := h.exists_cons (by decide)
        exact ⟨rest, rfl⟩
      · rw [closesTwice_cons hc] at hds ⊢
        exact ih hds
  | change hold hc h ih =>
      rw [closesTwice_append]
      · rw [closesTwice_cons] at hds
        · exact ih hds
        · rintro rfl
          exact absurd hc (by decide)
      · intro hmem
        exact absurd (hold _ hmem) (by decide)

theorem beginsDoubledTag (h : Alters isTagMark cs ds) (hds : BeginsDoubledTag ds) :
    BeginsDoubledTag cs := by
  obtain ⟨rest, rfl, htag, hclosed⟩ := hds
  obtain ⟨behind, rfl, hbehind⟩ := h.exists_cons (by decide)
  obtain ⟨tag, rfl, hrest⟩ := hbehind.exists_cons (by decide)
  exact ⟨tag, rfl, hrest.beginsTag htag, hrest.closesTwice hclosed⟩

theorem occurs_tag (h : Alters isTagMark cs ds) (hds : Occurs BeginsDoubledTag ds) :
    Occurs BeginsDoubledTag cs := by
  refine h.occurs beginsDoubledTag ?_ hds
  rintro c ds ⟨rest, heq, -⟩
  rw [(List.cons_eq_cons.1 heq).1]
  decide

theorem beginsDoubledEquals (h : Alters isAttributeMark cs ds) (hds : BeginsDoubledEquals ds) :
    BeginsDoubledEquals cs := by
  obtain ⟨c, quote, rest, rfl, hword, hquote⟩ := hds
  have hmark : isAttributeMark quote = true := by rcases hquote with rfl | rfl <;> decide
  obtain ⟨behind, rfl, hbehind⟩ := h.exists_cons (by simp [isAttributeMark, hword])
  obtain ⟨second, rfl, hsecond⟩ := hbehind.exists_cons (by decide)
  obtain ⟨quoted, rfl, hquoted⟩ := hsecond.exists_cons (by decide)
  obtain ⟨value, rfl, -⟩ := hquoted.exists_cons hmark
  exact ⟨c, quote, value, rfl, hword, hquote⟩

theorem occurs_equals (h : Alters isAttributeMark cs ds) (hds : Occurs BeginsDoubledEquals ds) :
    Occurs BeginsDoubledEquals cs := by
  refine h.occurs beginsDoubledEquals ?_ hds
  rintro c ds ⟨d, quote, rest, heq, hword, -⟩
  rw [(List.cons_eq_cons.1 heq).1]
  simp [isAttributeMark, hword]

end Alters

/-! ## Doubled brackets -/

theorem beginsTag_bracket : beginsTag ('<' :: cs) = false := rfl

theorem head?_fixBrackets (cs : List Char) : (fixBrackets cs).head? = cs.head? := by
  fun_cases fixBrackets cs <;> rfl

theorem beginsTag_fixBrackets (cs : List Char) : beginsTag (fixBrackets cs) = beginsTag cs := by
  fun_cases fixBrackets cs with
  | case1 | case2 | case3 | case5 => rfl
  | case4 c rest hpair =>
      have hhead := head?_fixBrackets rest
      by_cases hslash : c = '/'
      · subst hslash
        cases hfixed : fixBrackets rest <;> cases rest <;> simp_all [beginsTag]
      · simp [beginsTag, hslash]

theorem forall_mem_opened (rest : List Char) :
    ∀ d ∈ '<' :: '<' :: rest.takeWhile (· == '<'), d = '<' := by
  simp only [List.forall_mem_cons, true_and]
  intro d hd
  simpa using List.mem_takeWhile_imp hd

theorem closesTwice_opened : ClosesTwice ('<' :: '<' :: cs) ↔
    ClosesTwice (cs.dropWhile (· == '<')) := by
  have hrun : '>' ∉ cs.takeWhile (· == '<') := by
    intro hmem
    exact absurd (List.mem_takeWhile_imp hmem) (by decide)
  have hsplit : ClosesTwice (cs.takeWhile (· == '<') ++ cs.dropWhile (· == '<')) ↔
      ClosesTwice (cs.dropWhile (· == '<')) := closesTwice_append hrun
  rw [List.takeWhile_append_dropWhile] at hsplit
  rw [closesTwice_cons (by decide), closesTwice_cons (by decide), hsplit]

theorem closesTwice_of_dropWhile (h : cs.dropWhile (· != '>') = '>' :: '>' :: ds) :
    ClosesTwice cs := by
  rw [ClosesTwice, h]
  exact List.prefix_append ['>', '>'] ds

theorem not_closesTwice_of_dropWhile
    (h : ∀ tail, cs.dropWhile (· != '>') = '>' :: '>' :: tail → False) : ¬ClosesTwice cs := by
  rintro ⟨tail, htail⟩
  exact h tail htail.symm

theorem closesTwice_of_fixBrackets (h : ClosesTwice (fixBrackets cs)) : ClosesTwice cs := by
  fun_induction fixBrackets cs with
  | case1 rest after inner tail hclosed htag ih =>
      exact closesTwice_opened.2 (closesTwice_of_dropWhile hclosed)
  | case2 rest after run tail hclosed htag ih =>
      exact closesTwice_opened.2 (closesTwice_of_dropWhile hclosed)
  | case3 rest after run hopen ih =>
      have hrun : '>' ∉ '<' :: '<' :: run := by
        intro hmem
        exact absurd (forall_mem_opened rest _ hmem) (by decide)
      have hafter := (closesTwice_append hrun).1 h
      exact closesTwice_opened.2 (ih hafter)
  | case4 c rest hpair ih =>
      by_cases hc : c = '>'
      · subst hc
        rw [closesTwice_bracket] at h ⊢
        obtain ⟨ds, hds⟩ := h
        have hhead : rest.head? = some '>' := by rw [← head?_fixBrackets, hds, List.head?_cons]
        exact List.head?_eq_some_iff.1 hhead
      · rw [closesTwice_cons hc] at h ⊢
        exact ih h
  | case5 => exact h

theorem not_occurs_run (hrun : ∀ d ∈ run, d = '<') (hhead : cs.head? ≠ some '<')
    (hcs : ¬Occurs BeginsDoubledTag cs) (htag : beginsTag cs = true → ¬ClosesTwice cs) :
    ¬Occurs BeginsDoubledTag (run ++ cs) := by
  induction run with
  | nil => exact hcs
  | cons d run ih =>
      rw [List.forall_mem_cons] at hrun
      obtain ⟨rfl, hrun⟩ := hrun
      rw [List.cons_append, occurs_cons, not_or]
      refine ⟨?_, ih hrun⟩
      rintro ⟨rest, heq, hbegins, hcloses⟩
      have hrest := (List.cons_eq_cons.1 heq).2
      -- A tag can begin behind the last bracket of the run only.
      match run, hrun with
      | [], _ => exact hhead (by rw [← List.nil_append cs, hrest, List.head?_cons])
      | [e], _ =>
          obtain rfl := (List.cons_eq_cons.1 hrest).2
          exact htag hbegins hcloses
      | e :: e' :: run, hrun =>
          obtain rfl := (List.cons_eq_cons.1 hrest).2
          obtain rfl : e' = '<' := hrun e' (by simp)
          exact absurd (beginsTag_bracket.symm.trans hbegins) (by decide)

theorem not_occurs_closed (hrun : '>' ∉ run) (hhead : cs.head? ≠ some '>')
    (hcs : ¬Occurs BeginsDoubledTag cs) : ¬Occurs BeginsDoubledTag (run ++ '>' :: cs) := by
  induction run with
  | nil =>
      rw [List.nil_append, occurs_cons, not_or]
      exact ⟨not_beginsDoubledTag (by decide), hcs⟩
  | cons d run ih =>
      rw [List.mem_cons, not_or] at hrun
      rw [List.cons_append, occurs_cons, not_or]
      refine ⟨?_, ih hrun.2⟩
      rintro ⟨rest, heq, -, hcloses⟩
      have hclosed : ClosesTwice (run ++ '>' :: cs) := by
        rw [(List.cons_eq_cons.1 heq).2, closesTwice_cons (by decide)]
        exact hcloses
      rw [closesTwice_append hrun.2, closesTwice_bracket] at hclosed
      obtain ⟨tail, rfl⟩ := hclosed
      exact hhead rfl

theorem head?_fixBrackets_behind (rest : List Char) :
    (fixBrackets (rest.dropWhile (· == '<'))).head? ≠ some '<' := by
  rw [head?_fixBrackets]
  intro hhead
  simpa using Text.of_head?_dropWhile hhead

theorem not_occurs_fixBrackets (cs : List Char) :
    ¬Occurs BeginsDoubledTag (fixBrackets cs) := by
  fun_induction fixBrackets cs with
  | case1 rest after inner tail hclosed htag ih =>
      have hinner : '>' ∉ '<' :: inner := by
        rw [List.mem_cons, not_or]
        refine ⟨by decide, fun hmem => ?_⟩
        simpa using List.mem_takeWhile_imp hmem
      refine not_occurs_closed hinner ?_ ih
      rw [head?_fixBrackets]
      intro hhead
      simpa using Text.of_head?_dropWhile hhead
  | case2 rest after run tail hclosed htag ih =>
      refine not_occurs_run (forall_mem_opened rest) (head?_fixBrackets_behind rest) ih ?_
      intro hbegins
      rw [beginsTag_fixBrackets] at hbegins
      contradiction
  | case3 rest after run hopen ih =>
      refine not_occurs_run (forall_mem_opened rest) (head?_fixBrackets_behind rest) ih ?_
      intro _ hcloses
      exact not_closesTwice_of_dropWhile hopen (closesTwice_of_fixBrackets hcloses)
  | case4 c rest hpair ih =>
      rw [occurs_cons, not_or]
      refine ⟨?_, ih⟩
      rintro ⟨ds, heq, -⟩
      obtain ⟨rfl, hrest⟩ := List.cons_eq_cons.1 heq
      have hhead : rest.head? = some '<' := by rw [← head?_fixBrackets, hrest, List.head?_cons]
      obtain ⟨tail, htail⟩ := List.head?_eq_some_iff.1 hhead
      exact hpair tail rfl htail
  | case5 => exact not_occurs_nil_tag

/-- The last two brackets of a run of them stand directly in front of what is behind it. -/
theorem suffix_after (rest : List Char) :
    '<' :: '<' :: rest.dropWhile (· == '<') <:+ '<' :: '<' :: rest := by
  induction rest with
  | nil => exact List.suffix_rfl
  | cons c rest ih =>
      by_cases hc : c = '<'
      · subst hc
        rw [List.dropWhile_cons_of_pos (by decide)]
        exact ih.trans (List.suffix_cons _ _)
      · have hdrop : (c :: rest).dropWhile (· == '<') = c :: rest :=
          List.dropWhile_cons_of_neg (by simpa using hc)
        simp [hdrop]

theorem suffix_behind (rest : List Char) :
    rest.dropWhile (· == '<') <:+ '<' :: '<' :: rest :=
  ((List.suffix_cons _ _).trans (List.suffix_cons _ _)).trans (suffix_after rest)

theorem fixBrackets_eq_self (h : ¬Occurs BeginsDoubledTag cs) : fixBrackets cs = cs := by
  fun_induction fixBrackets cs with
  | case1 rest after inner tail hclosed htag ih =>
      refine absurd ⟨_, suffix_after rest, after, rfl, htag, ?_⟩ h
      exact closesTwice_of_dropWhile hclosed
  | case2 rest after run tail hclosed htag ih =>
      rw [ih fun hafter => h (hafter.of_suffix (suffix_behind rest)),
        List.takeWhile_append_dropWhile]
  | case3 rest after run hopen ih =>
      rw [ih fun hafter => h (hafter.of_suffix (suffix_behind rest)),
        List.takeWhile_append_dropWhile]
  | case4 c rest hpair ih =>
      rw [occurs_cons, not_or] at h
      rw [ih h.2]
  | case5 => rfl

theorem fixBrackets_eq_self_iff : fixBrackets cs = cs ↔ ¬Occurs BeginsDoubledTag cs := by
  constructor
  · intro h
    rw [← h]
    exact not_occurs_fixBrackets cs
  · exact fixBrackets_eq_self

theorem mem_opened {rest : List Char} (hafter : c ∈ ds → c ∈ rest.dropWhile (· == '<'))
    (h : c ∈ '<' :: '<' :: (rest.takeWhile (· == '<') ++ ds)) : c ∈ '<' :: '<' :: rest := by
  rw [← List.cons_append, ← List.cons_append, List.mem_append] at h
  rcases h with hrun | hds
  · rw [forall_mem_opened rest c hrun]
    exact List.mem_cons_self
  · exact (suffix_behind rest).subset (hafter hds)

theorem mem_of_mem_fixBrackets (h : c ∈ fixBrackets cs) : c ∈ cs := by
  fun_induction fixBrackets cs with
  | case1 rest after inner tail hclosed htag ih =>
      have hafter : after = inner ++ '>' :: '>' :: tail := by
        rw [← hclosed, List.takeWhile_append_dropWhile]
      have hbehind : ∀ d ∈ after, d ∈ '<' :: '<' :: rest := (suffix_behind rest).subset
      rcases List.mem_cons.1 h with rfl | h
      · simp
      · apply hbehind
        rw [hafter, List.mem_append]
        rcases List.mem_append.1 h with hinner | h
        · exact .inl hinner
        · rcases List.mem_cons.1 h with rfl | h
          · simp
          · have htail := (List.dropWhile_suffix _).subset (ih h)
            simp [htail]
  | case2 rest after run tail hclosed htag ih =>
      exact mem_opened ih h
  | case3 rest after run hopen ih =>
      exact mem_opened ih h
  | case4 d rest hpair ih =>
      rw [List.mem_cons] at h ⊢
      exact h.imp_right ih
  | case5 => exact h

/-! ## Doubled equals signs -/

theorem fixEquals_cons (hc : Text.isWord c = false) :
    fixEquals (c :: cs) = c :: fixEquals cs := by
  rw [fixEquals.eq_def]
  split
  · rename_i d quote rest heq
    obtain ⟨rfl, rfl⟩ := List.cons_eq_cons.1 heq
    simp [hc]
  · rename_i d rest hpair heq
    obtain ⟨rfl, rfl⟩ := List.cons_eq_cons.1 heq
    rfl
  · contradiction

theorem head?_fixEquals (cs : List Char) : (fixEquals cs).head? = cs.head? := by
  fun_cases fixEquals cs <;> rfl

theorem eq_cons_of_fixEquals (hc : Text.isWord c = false) (h : fixEquals cs = c :: ds) :
    ∃ rest, cs = c :: rest ∧ fixEquals rest = ds := by
  have hhead : cs.head? = some c := by rw [← head?_fixEquals, h, List.head?_cons]
  obtain ⟨rest, rfl⟩ := List.head?_eq_some_iff.1 hhead
  rw [fixEquals_cons hc] at h
  exact ⟨rest, rfl, (List.cons_eq_cons.1 h).2⟩

theorem not_isWord_of_isQuote (h : c = '"' ∨ c = '\'') : Text.isWord c = false := by
  rcases h with rfl | rfl <;> decide

theorem beginsDoubledEquals_iff {quote : Char} :
    BeginsDoubledEquals (c :: '=' :: '=' :: quote :: cs) ↔
      (Text.isWord c && (quote == '"' || quote == '\'')) = true := by
  simp only [BeginsDoubledEquals, List.cons.injEq, Bool.and_eq_true, Bool.or_eq_true, beq_iff_eq]
  constructor
  · rintro ⟨_, _, _, ⟨rfl, -, -, rfl, rfl⟩, hfixed⟩
    exact hfixed
  · intro hfixed
    exact ⟨c, quote, cs, by simp, hfixed⟩

theorem beginsDoubledEquals_of_fixEquals (h : BeginsDoubledEquals (c :: fixEquals cs)) :
    BeginsDoubledEquals (c :: cs) := by
  obtain ⟨d, quote, tail, heq, hword, hquote⟩ := h
  obtain ⟨rfl, htail⟩ := List.cons_eq_cons.1 heq
  obtain ⟨second, rfl, hsecond⟩ := eq_cons_of_fixEquals (by decide) htail
  obtain ⟨quoted, rfl, hquoted⟩ := eq_cons_of_fixEquals (by decide) hsecond
  obtain ⟨rest, rfl, -⟩ := eq_cons_of_fixEquals (not_isWord_of_isQuote hquote) hquoted
  exact ⟨c, quote, rest, rfl, hword, hquote⟩

theorem not_occurs_fixEquals (cs : List Char) :
    ¬Occurs BeginsDoubledEquals (fixEquals cs) := by
  fun_induction fixEquals cs with
  | case1 c quote rest hfixed ih =>
      have hquote : quote = '"' ∨ quote = '\'' := by
        simpa using (Bool.and_eq_true_iff.1 hfixed).2
      simp only [occurs_cons, not_or]
      refine ⟨?_, not_beginsDoubledEquals (by decide),
        not_beginsDoubledEquals (not_isWord_of_isQuote hquote), ih⟩
      rintro ⟨d, other, tail, heq, -⟩
      simp only [List.cons.injEq] at heq
      rcases hquote with rfl | rfl <;> exact absurd heq.2.2.1 (by decide)
  | case2 c quote rest hkept ih =>
      rw [occurs_cons, not_or]
      refine ⟨fun hbegins => ?_, ih⟩
      exact hkept (beginsDoubledEquals_iff.1 (beginsDoubledEquals_of_fixEquals hbegins))
  | case3 c rest hpair ih =>
      rw [occurs_cons, not_or]
      refine ⟨fun hbegins => ?_, ih⟩
      obtain ⟨d, quote, tail, heq, -⟩ := beginsDoubledEquals_of_fixEquals hbegins
      exact hpair quote tail (List.cons_eq_cons.1 heq).2
  | case4 => exact not_occurs_nil_equals

theorem fixEquals_eq_self (h : ¬Occurs BeginsDoubledEquals cs) : fixEquals cs = cs := by
  fun_induction fixEquals cs with
  | case1 c quote rest hfixed ih =>
      rw [occurs_cons, not_or] at h
      exact absurd (beginsDoubledEquals_iff.2 hfixed) h.1
  | case2 c quote rest hkept ih =>
      rw [occurs_cons, not_or] at h
      rw [ih h.2]
  | case3 c rest hpair ih =>
      rw [occurs_cons, not_or] at h
      rw [ih h.2]
  | case4 => rfl

theorem fixEquals_eq_self_iff : fixEquals cs = cs ↔ ¬Occurs BeginsDoubledEquals cs := by
  constructor
  · intro h
    rw [← h]
    exact not_occurs_fixEquals cs
  · exact fixEquals_eq_self

theorem mem_of_mem_fixEquals (h : c ∈ fixEquals cs) : c ∈ cs := by
  fun_induction fixEquals cs with
  | case1 d quote rest hfixed ih =>
      simp only [List.mem_cons] at h ⊢
      rcases h with h | h | h | h
      · exact .inl h
      · exact .inr (.inl h)
      · simp [h]
      · simp [ih h]
  | case2 d quote rest hkept ih =>
      rw [List.mem_cons] at h ⊢
      exact h.imp_right ih
  | case3 d rest hpair ih =>
      rw [List.mem_cons] at h ⊢
      exact h.imp_right ih
  | case4 => exact h

theorem alters_fixEquals (cs : List Char) : Alters isTagMark cs (fixEquals cs) := by
  fun_induction fixEquals cs with
  | case1 c quote rest hfixed ih =>
      have hmark : isTagMark '=' = false := by decide
      have hequals : ∀ d ∈ ['=', '='], isTagMark d = false := by simp [hmark]
      exact .keep c (.change hequals hmark (.keep quote ih))
  | case2 c quote rest hkept ih => exact .keep c ih
  | case3 c rest hpair ih => exact .keep c ih
  | case4 => exact .nil

/-! ## Line ends -/

theorem alters_unifyLineEnds {isMark : Char → Bool} (hreturn : isMark '\r' = false)
    (hnewline : isMark '\n' = false) (cs : List Char) :
    Alters isMark cs (Text.unifyLineEnds cs) := by
  fun_induction Text.unifyLineEnds cs with
  | case1 rest ih =>
      have hends : ∀ d ∈ ['\r', '\n'], isMark d = false := by simp [hreturn, hnewline]
      exact .change hends hnewline ih
  | case2 rest hrest ih =>
      have hends : ∀ d ∈ ['\r'], isMark d = false := by simp [hreturn]
      exact .change hends hnewline ih
  | case3 c rest hpair hc ih => exact .keep c ih
  | case4 => exact .nil

theorem eq_newline_or_mem_of_mem_unifyLineEnds (h : c ∈ Text.unifyLineEnds cs) :
    c = '\n' ∨ c ∈ cs ∧ c ≠ '\r' := by
  fun_induction Text.unifyLineEnds cs with
  | case1 rest ih => grind
  | case2 rest hrest ih => grind
  | case3 d rest hpair hd ih => grind
  | case4 => simp at h

theorem unifyLineEnds_eq_self_of_notMem (h : '\r' ∉ cs) : Text.unifyLineEnds cs = cs := by
  induction cs with
  | nil => rfl
  | cons c rest ih =>
      rw [List.mem_cons, not_or] at h
      rw [Text.unifyLineEnds_cons (Ne.symm h.1), ih h.2]

end Feuilleton.Page
