import Feuilleton.Page.Title
import Feuilleton.Proofs.Text.Trimmed
import Feuilleton.Text.Blank

/-!
# Titles and line ends

Tags are the same whichever way lines end, and so are blanks. A page with unified line ends has the
title that the page had before, with unified line ends.
-/

namespace Feuilleton

namespace Text

variable {cs rest : List Char} {p : Char → Bool}

theorem unifyLineEnds_eq_nil_iff : unifyLineEnds cs = [] ↔ cs = [] := by
  fun_cases unifyLineEnds cs <;> simp

theorem unifyLineEnds_return (h : ∀ tail, rest = '\n' :: tail → False) :
    unifyLineEnds ('\r' :: rest) = '\n' :: unifyLineEnds rest := by
  rw [unifyLineEnds]
  exact h

theorem unifyLineEnds_cons {c : Char} (h : c ≠ '\r') :
    unifyLineEnds (c :: rest) = c :: unifyLineEnds rest := by
  rw [unifyLineEnds]
  · intro tail hc
    exact absurd hc h
  · intro hc
    exact absurd hc h

/-- Without line ends there is nothing to unify. -/
theorem unifyLineEnds_eq_self (h : '\n' ∉ unifyLineEnds cs) : unifyLineEnds cs = cs := by
  fun_induction unifyLineEnds cs with
  | case1 rest ih => simp at h
  | case2 rest hrest ih => simp at h
  | case3 c rest hpair hreturn ih =>
      rw [List.mem_cons, not_or] at h
      rw [ih h.2]
  | case4 => rfl

/-! ## Trimming -/

theorem dropWhile_unifyLineEnds (hp : p '\r' = p '\n') :
    (unifyLineEnds cs).dropWhile p = unifyLineEnds (cs.dropWhile p) := by
  fun_induction unifyLineEnds cs with
  | case1 rest ih =>
      cases hblank : p '\n' with
      | true => simp [hp, hblank, ih]
      | false => simp [hp, hblank, unifyLineEnds]
  | case2 rest hrest ih =>
      cases hblank : p '\n' with
      | true => simp [hp, hblank, ih]
      | false => simp [hp, hblank, unifyLineEnds_return hrest]
  | case3 c rest hpair hreturn ih =>
      cases hblank : p c with
      | true => simp [hblank, ih]
      | false => simp [hblank, unifyLineEnds_cons hreturn]
  | case4 => rfl

theorem dropEndWhile_cons (c : Char) : dropEndWhile p (c :: cs) =
    if dropEndWhile p cs = [] ∧ p c = true then [] else c :: dropEndWhile p cs := by
  unfold dropEndWhile
  rw [List.reverse_cons, List.dropWhile_append]
  cases hrest : cs.reverse.dropWhile p with
  | nil => cases hc : p c <;> simp [hc]
  | cons d ds => simp

theorem not_newline_of_prefix {ds : List Char} (hpart : ds <+: cs)
    (h : ∀ tail, cs = '\n' :: tail → False) : ∀ tail, ds = '\n' :: tail → False := by
  rintro tail rfl
  obtain ⟨more, rfl⟩ := hpart
  exact h _ rfl

/-- The induction follows the lines. A return that ends one stays in front of a character that is
no line feed, whatever is dropped behind. -/
theorem dropEndWhile_unifyLineEnds (hp : p '\r' = p '\n') :
    dropEndWhile p (unifyLineEnds cs) = unifyLineEnds (dropEndWhile p cs) := by
  fun_induction unifyLineEnds cs with
  | case1 rest ih =>
      simp only [dropEndWhile_cons, ih, hp, unifyLineEnds_eq_nil_iff]
      by_cases hblank : dropEndWhile p rest = [] ∧ p '\n' = true
      · simp [hblank, unifyLineEnds]
      · simp [hblank, unifyLineEnds]
  | case2 rest hrest ih =>
      simp only [dropEndWhile_cons, ih, hp, unifyLineEnds_eq_nil_iff]
      by_cases hblank : dropEndWhile p rest = [] ∧ p '\n' = true
      · simp [hblank, unifyLineEnds]
      · have hpart := dropEndWhile_prefix p rest
        have hkept := not_newline_of_prefix hpart hrest
        rw [if_neg hblank, if_neg hblank, unifyLineEnds_return hkept]
  | case3 c rest hpair hreturn ih =>
      simp only [dropEndWhile_cons, ih, unifyLineEnds_eq_nil_iff]
      by_cases hblank : dropEndWhile p rest = [] ∧ p c = true
      · simp [hblank, unifyLineEnds]
      · rw [if_neg hblank, if_neg hblank, unifyLineEnds_cons hreturn]
  | case4 => rfl

theorem trimList_unifyLineEnds : trimList (unifyLineEnds cs) = unifyLineEnds (trimList cs) := by
  unfold trimList
  rw [dropWhile_unifyLineEnds (by decide), dropEndWhile_unifyLineEnds (by decide)]

end Text

namespace Page

open Text (unifyLineEnds unifyLineEnds_cons unifyLineEnds_return)

variable {cs rest : List Char}

/-! ## Tags -/

/-- No letter is the end of a line. -/
def IsInline (name : List Char) : Prop :=
  ∀ letter ∈ name, isTitleLetter letter '\r' = false ∧ isTitleLetter letter '\n' = false

instance (name : List Char) : Decidable (IsInline name) :=
  List.decidableBAll _ _

theorem isInline_opening : IsInline "<title".toList := by
  decide

theorem isInline_closing : IsInline "</title>".toList := by
  decide

theorem afterName?_unifyLineEnds {name : List Char} (hname : IsInline name) :
    afterName? name (unifyLineEnds cs) = (afterName? name cs).map unifyLineEnds := by
  induction name generalizing cs with
  | nil => rfl
  | cons letter name ih =>
      have hletter := hname letter List.mem_cons_self
      have hrest : IsInline name := fun l hl => hname l (List.mem_cons_of_mem letter hl)
      fun_cases unifyLineEnds cs with
      | case1 rest => simp [afterName?, hletter]
      | case2 rest _ => simp [afterName?, hletter]
      | case3 c rest _ _ =>
          rw [afterName?, afterName?]
          split
          · exact ih hrest
          · rfl
      | case4 => rfl

theorem afterName?_of_isInline {name : List Char} {c : Char} (hname : IsInline name)
    (hne : name ≠ []) (hc : c = '\r' ∨ c = '\n') : afterName? name (c :: rest) = none := by
  cases name with
  | nil => contradiction
  | cons letter name =>
      have hletter := hname letter List.mem_cons_self
      rcases hc with rfl | rfl <;> simp [afterName?, hletter]

theorem afterOpened?_of_end {c : Char} (hc : c = '\r' ∨ c = '\n') :
    afterOpened? (c :: rest) = afterOpened? rest := by
  have hname : afterName? "<title".toList (c :: rest) = none :=
    afterName?_of_isInline isInline_opening (by decide) hc
  rw [afterOpened?, hname]

theorem untilClosed?_of_end {c : Char} (hc : c = '\r' ∨ c = '\n') :
    untilClosed? (c :: rest) = (untilClosed? rest).map (c :: ·) := by
  have hname : afterName? "</title>".toList (c :: rest) = none :=
    afterName?_of_isInline isInline_closing (by decide) hc
  rw [untilClosed?, hname]
  rfl

/-! ## Titles -/

theorem afterOpened?_unifyLineEnds :
    afterOpened? (unifyLineEnds cs) = (afterOpened? cs).map unifyLineEnds := by
  fun_induction unifyLineEnds cs with
  | case1 rest ih =>
      rw [afterOpened?_of_end (.inr rfl), afterOpened?_of_end (.inl rfl),
        afterOpened?_of_end (.inr rfl), ih]
  | case2 rest hrest ih =>
      rw [afterOpened?_of_end (.inr rfl), afterOpened?_of_end (.inl rfl), ih]
  | case3 c rest hpair hreturn ih =>
      have hname : afterName? "<title".toList (unifyLineEnds (c :: rest)) = _ :=
        afterName?_unifyLineEnds isInline_opening
      rw [unifyLineEnds_cons hreturn] at hname
      rw [afterOpened?, afterOpened?, hname]
      cases afterName? "<title".toList (c :: rest) with
      | none => exact ih
      | some tail =>
          simp only [Option.map_some, Text.dropWhile_unifyLineEnds (p := (· != '>')) rfl]
          cases htail : tail.dropWhile (· != '>') with
          | nil => rfl
          | cons d after =>
              have hd : d = '>' := by
                have hhead := Text.of_head?_dropWhile (by rw [htail]; rfl)
                simpa using hhead
              rw [unifyLineEnds_cons (by rw [hd]; decide)]
              rfl
  | case4 => rfl

theorem prefix_of_untilClosed? {title : List Char} (h : untilClosed? cs = some title) :
    title <+: cs := by
  induction cs generalizing title with
  | nil => cases h
  | cons c rest ih =>
      rw [untilClosed?] at h
      split at h
      · obtain rfl := Option.some.inj h
        exact List.nil_prefix
      · obtain ⟨tail, htail, rfl⟩ := Option.map_eq_some_iff.1 h
        exact List.cons_prefix_cons.2 ⟨rfl, ih htail⟩

theorem untilClosed?_unifyLineEnds :
    untilClosed? (unifyLineEnds cs) = (untilClosed? cs).map unifyLineEnds := by
  fun_induction unifyLineEnds cs with
  | case1 rest ih =>
      rw [untilClosed?_of_end (.inr rfl), untilClosed?_of_end (.inl rfl),
        untilClosed?_of_end (.inr rfl), ih]
      cases untilClosed? rest <;> rfl
  | case2 rest hrest ih =>
      rw [untilClosed?_of_end (.inr rfl), untilClosed?_of_end (.inl rfl), ih]
      cases htitle : untilClosed? rest with
      | none => rfl
      | some title =>
          have hkept := Text.not_newline_of_prefix (prefix_of_untilClosed? htitle) hrest
          simp [unifyLineEnds_return hkept]
  | case3 c rest hpair hreturn ih =>
      have hname : afterName? "</title>".toList (unifyLineEnds (c :: rest)) = _ :=
        afterName?_unifyLineEnds isInline_closing
      rw [unifyLineEnds_cons hreturn] at hname
      rw [untilClosed?, untilClosed?, hname, Option.isSome_map, ih]
      split
      · rfl
      · cases untilClosed? rest with
        | none => rfl
        | some title => simp [unifyLineEnds_cons hreturn]
  | case4 => rfl

theorem titleChars?_unifyLineEnds :
    titleChars? (unifyLineEnds cs) = (titleChars? cs).map unifyLineEnds := by
  unfold titleChars?
  rw [afterOpened?_unifyLineEnds]
  cases afterOpened? cs with
  | none => rfl
  | some tail => exact untilClosed?_unifyLineEnds

end Page

end Feuilleton
