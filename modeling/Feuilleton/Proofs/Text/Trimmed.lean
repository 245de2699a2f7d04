import Mathlib.Data.List.DropRight
import Feuilleton.Text.Blank

/-!
# Trimmed texts

A text is trimmed if no blank stands at either of its ends. Trimming makes every text such a one,
and one that is not empty then has a character to show.
-/

namespace Feuilleton.Text

variable {s : String} {cs blanks : List Char} {p : Char → Bool} {c : Char}

def IsTrimmed (s : String) : Prop :=
  (∀ c, s.toList.head? = some c → isBlank c = false) ∧
    ∀ c, s.toList.getLast? = some c → isBlank c = false

theorem isTrimmed_empty : IsTrimmed "" := by
  simp [IsTrimmed]

theorem of_head?_dropWhile (h : (cs.dropWhile p).head? = some c) : p c = false := by
  have hnot := List.head?_dropWhile_not p cs
  rw [h] at hnot
  exact hnot

theorem dropEndWhile_prefix (p : Char → Bool) (cs : List Char) : dropEndWhile p cs <+: cs := by
  have hreversed := (List.dropWhile_suffix (l := cs.reverse) p).reverse
  rwa [List.reverse_reverse] at hreversed

theorem isTrimmed_trimList (cs : List Char) : IsTrimmed (String.ofList (trimList cs)) := by
  rw [IsTrimmed, String.toList_ofList, trimList]
  constructor
  · intro c hc
    -- What is left at the end begins where the text behind the leading blanks does.
    obtain ⟨dropped, hdropped⟩ := dropEndWhile_prefix isBlank (cs.dropWhile isBlank)
    have hhead : (cs.dropWhile isBlank).head? = some c := by
      rw [← hdropped, List.head?_append, hc]
      rfl
    exact of_head?_dropWhile hhead
  · intro c hc
    rw [dropEndWhile, List.getLast?_reverse] at hc
    exact of_head?_dropWhile hc

theorem isTrimmed_trim (s : String) : IsTrimmed (trim s) :=
  isTrimmed_trimList s.toList

theorem dropWhile_eq_self (h : ∀ c, cs.head? = some c → p c = false) : cs.dropWhile p = cs := by
  cases cs with
  | nil => rfl
  | cons c rest => simp [h c rfl]

theorem dropEndWhile_eq_self (h : ∀ c, cs.getLast? = some c → p c = false) :
    dropEndWhile p cs = cs := by
  have hreversed : cs.reverse.dropWhile p = cs.reverse := by
    apply dropWhile_eq_self
    rw [List.head?_reverse]
    exact h
  rw [dropEndWhile, hreversed, List.reverse_reverse]

theorem trimList_eq_self (hhead : ∀ c, cs.head? = some c → isBlank c = false)
    (hlast : ∀ c, cs.getLast? = some c → isBlank c = false) : trimList cs = cs := by
  rw [trimList, dropWhile_eq_self hhead, dropEndWhile_eq_self hlast]

theorem IsTrimmed.trim_eq (h : IsTrimmed s) : trim s = s := by
  rw [trim, trimList_eq_self h.1 h.2, String.ofList_toList]

theorem isBlankText_eq_false_of_mem (hc : c ∈ s.toList) (hblank : isBlank c = false) :
    isBlankText s = false := by
  rw [isBlankText, List.all_eq_false]
  exact ⟨c, hc, by simp [hblank]⟩

theorem IsTrimmed.isBlankText_eq_false (h : IsTrimmed s) (hs : s.isEmpty = false) :
    isBlankText s = false := by
  cases hchars : s.toList with
  | nil =>
      have hempty : s = "" := String.toList_eq_nil_iff.1 hchars
      simp [hempty] at hs
  | cons c rest =>
      have hblank := h.1 c (by rw [hchars]; rfl)
      exact isBlankText_eq_false_of_mem (by rw [hchars]; exact List.mem_cons_self) hblank

/-! ## Blanks at the ends -/

theorem dropEndWhile_append_of_forall {p : Char → Bool} (h : ∀ c ∈ blanks, p c = true) :
    dropEndWhile p (cs ++ blanks) = dropEndWhile p cs := by
  have hreversed : ∀ c ∈ blanks.reverse, p c = true := by simpa using h
  rw [dropEndWhile, List.reverse_append, List.dropWhile_append_of_pos hreversed, dropEndWhile]

theorem trimList_append_of_blank (h : ∀ c ∈ blanks, isBlank c = true) :
    trimList (cs ++ blanks) = trimList cs := by
  rw [trimList, trimList, List.dropWhile_append]
  split
  · rename_i hnone
    rw [List.dropWhile_eq_nil_iff.2 h, List.isEmpty_iff.1 hnone]
  · exact dropEndWhile_append_of_forall h

theorem exists_append_dropEndWhile (p : Char → Bool) (cs : List Char) :
    ∃ dropped, cs = dropEndWhile p cs ++ dropped ∧ ∀ c ∈ dropped, p c = true := by
  refine ⟨cs.rtakeWhile p, ?_, fun c hc => List.mem_rtakeWhile_imp hc⟩
  exact (List.rdropWhile_append_rtakeWhile (p := p) (l := cs)).symm

theorem exists_append_blanks (cs : List Char) :
    ∃ blanks, cs.dropWhile isBlank = trimList cs ++ blanks ∧ ∀ c ∈ blanks, isBlank c = true :=
  exists_append_dropEndWhile isBlank (cs.dropWhile isBlank)

theorem trimList_of_blank_append (h : ∀ c ∈ blanks, isBlank c = true) :
    trimList (blanks ++ cs) = trimList cs := by
  rw [trimList, List.dropWhile_append_of_pos h, trimList]

/-- Trimming takes nothing but blanks away. -/
theorem exists_eq_append_trimList (cs : List Char) :
    ∃ lead tail, (∀ c ∈ lead, isBlank c = true) ∧ (∀ c ∈ tail, isBlank c = true) ∧
      cs = lead ++ trimList cs ++ tail := by
  obtain ⟨tail, hsplit, htail⟩ := exists_append_blanks cs
  refine ⟨cs.takeWhile isBlank, tail, fun c hc => List.mem_takeWhile_imp hc, htail, ?_⟩
  rw [List.append_assoc, ← hsplit, List.takeWhile_append_dropWhile]

end Feuilleton.Text
