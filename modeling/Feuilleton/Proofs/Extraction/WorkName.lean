import Feuilleton.Extraction.Number
import Feuilleton.Proofs.Text.Ink
import Feuilleton.Proofs.Text.Trimmed

/-!
# Titles without the name of the work

A chapter title loses the name of the work in front of it. All that stands behind the name is kept
if it is a single line; of several lines only the first one is.
-/

namespace Feuilleton

namespace Text

variable {s : String}

theorem startsWith_iff {pattern : String} :
    startsWith pattern s = true ↔ ∃ rest, s = pattern ++ rest := by
  rw [startsWith, List.isPrefixOf_iff_prefix]
  constructor
  · rintro ⟨rest, hrest⟩
    refine ⟨String.ofList rest, ?_⟩
    rw [← String.toList_inj, String.toList_append, String.toList_ofList, hrest]
  · rintro ⟨rest, rfl⟩
    rw [String.toList_append]
    exact List.prefix_append _ _

/-! ## First lines -/

def firstLine (s : String) : String :=
  String.ofList (s.toList.takeWhile (· != '\n'))

theorem newline_notMem_firstLine (s : String) : '\n' ∉ (firstLine s).toList := by
  rw [firstLine, String.toList_ofList]
  intro hmem
  simpa using List.mem_takeWhile_imp hmem

theorem firstLine_eq_self (h : '\n' ∉ s.toList) : firstLine s = s := by
  have hall : ∀ c ∈ s.toList, (c != '\n') = true := by
    intro c hc
    simp only [bne_iff_ne]
    rintro rfl
    exact h hc
  rw [firstLine, List.takeWhile_eq_self_iff.2 hall, String.ofList_toList]

theorem newline_notMem_trim (h : '\n' ∉ s.toList) : '\n' ∉ (trim s).toList := by
  intro hmem
  rw [trim, String.toList_ofList] at hmem
  have htrimmed := dropEndWhile_prefix isBlank (s.toList.dropWhile isBlank)
  exact h ((List.dropWhile_suffix isBlank).subset (htrimmed.subset hmem))

theorem trim_firstLine_eq_iff (h : IsTrimmed s) : trim (firstLine s) = s ↔ '\n' ∉ s.toList := by
  constructor
  · intro heq
    rw [← heq]
    exact newline_notMem_trim (newline_notMem_firstLine s)
  · intro hline
    rw [firstLine_eq_self hline, h.trim_eq]

theorem trimList_takeWhile_dropWhile (cs : List Char) :
    trimList ((cs.dropWhile isBlank).takeWhile (· != '\n')) =
      trimList ((trimList cs).takeWhile (· != '\n')) := by
  -- The blanks at the end may hold line feeds of their own, or belong to the first line.
  obtain ⟨blanks, hsplit, hblanks⟩ := exists_append_blanks cs
  rw [hsplit, List.takeWhile_append]
  split
  · rename_i hlength
    have hall := (List.takeWhile_prefix (l := trimList cs) (· != '\n')).eq_of_length hlength
    rw [hall]
    apply trimList_append_of_blank
    intro c hc
    exact hblanks c ((List.takeWhile_prefix _).subset hc)
  · rfl

end Text

variable {text workName rest : String}

/-! ## Titles -/

/-- Of the title only the name of the work in front of it is left out, and only where something
stands behind it. -/
structure KeepsAllButName (text workName shown : String) : Prop where
  behind : ∀ rest, workName ≠ "" → text = workName ++ rest → Text.isBlankText rest = false →
    shown = Text.trim rest
  whole : (∀ rest, workName ≠ "" → text = workName ++ rest → Text.isBlankText rest = true) →
    shown = Text.trim text

theorem stripWorkName_append (hname : workName ≠ "") (hrest : Text.isBlankText rest = false) :
    stripWorkName (workName ++ rest) workName = Text.trim (Text.firstLine (Text.trim rest)) := by
  have hstarts : Text.startsWith workName (workName ++ rest) = true :=
    Text.startsWith_iff.2 ⟨rest, rfl⟩
  have hdropped : rest.toList.dropWhile Text.isBlank ≠ [] := by
    intro hnil
    have hblank : Text.isBlankText rest = true :=
      List.all_eq_true.2 (List.dropWhile_eq_nil_iff.1 hnil)
    rw [hrest] at hblank
    contradiction
  rw [stripWorkName, if_pos (by simp [hname, hstarts]), String.toList_append,
    List.drop_left]
  split
  · contradiction
  · rw [Text.trimList_takeWhile_dropWhile, Text.trim, Text.firstLine, String.toList_ofList,
      Text.trim, String.toList_ofList]

theorem stripWorkName_of_whole
    (h : ∀ rest, workName ≠ "" → text = workName ++ rest → Text.isBlankText rest = true) :
    stripWorkName text workName = Text.trim text := by
  unfold stripWorkName
  split
  · rename_i hstarts
    rw [Bool.and_eq_true, Text.startsWith_iff] at hstarts
    obtain ⟨hname, rest, rfl⟩ := hstarts
    have hblank := h rest (by simpa using hname) rfl
    have hdropped : rest.toList.dropWhile Text.isBlank = [] :=
      List.dropWhile_eq_nil_iff.2 (List.all_eq_true.1 hblank)
    rw [String.toList_append, List.drop_left, hdropped]
  · rfl

/-- Nothing but the name of the work is lost exactly if a single line stands behind it. -/
theorem keepsAllButName_iff (text workName : String) :
    KeepsAllButName text workName (stripWorkName text workName) ↔
      ∀ rest, workName ≠ "" → text = workName ++ rest → '\n' ∉ (Text.trim rest).toList := by
  constructor
  · rintro h rest hname rfl
    cases hrest : Text.isBlankText rest with
    | true =>
        rw [Text.trim_eq_empty_iff.2 (Text.ink_eq_nil_iff.2 hrest)]
        simp
    | false =>
        have hshown := h.behind rest hname rfl hrest
        rw [stripWorkName_append hname hrest] at hshown
        exact (Text.trim_firstLine_eq_iff (Text.isTrimmed_trim rest)).1 hshown
  · intro h
    refine ⟨?_, stripWorkName_of_whole⟩
    rintro rest hname rfl hrest
    rw [stripWorkName_append hname hrest]
    exact (Text.trim_firstLine_eq_iff (Text.isTrimmed_trim rest)).2 (h rest hname rfl)

example : stripWorkName "(a|b)* z" "(a|b)*" = "z" := by decide

theorem not_keepsAllButName_twoLines :
    ¬KeepsAllButName "My Novel Chapter 1\nThe Beginning" "My Novel"
      (stripWorkName "My Novel Chapter 1\nThe Beginning" "My Novel") := by
  intro h
  have hshown := h.behind " Chapter 1\nThe Beginning" (by decide) (by decide) (by decide)
  exact absurd hshown (by decide)

end Feuilleton
