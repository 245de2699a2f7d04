import Feuilleton.ChapterPage.Decoy
import Feuilleton.Proofs.Text.Ink

/-!
# Classes declared by style sheets

A style sheet declares a class if somewhere in it the class stands behind a period and before a
comma or an opening brace, from which only blanks may part it.
-/

namespace Feuilleton.ChapterPage

open Document

variable {sheet rest : List Char} {name : String} {nodes : List Node}

/-- The text begins with a selector of the class. -/
def BeginsSelector (name : String) (text : List Char) : Prop :=
  ∃ blanks stop after, name ≠ "" ∧ (∀ c ∈ name.toList, isClassChar c = true) ∧
    (∀ c ∈ blanks, Text.isBlank c = true) ∧ (stop = ',' ∨ stop = '\x7b') ∧
    text = '.' :: (name.toList ++ blanks ++ stop :: after)

def Declares (sheet : List Char) (name : String) : Prop :=
  ∃ before text, sheet = before ++ text ∧ BeginsSelector name text

/-- A style sheet directly inside an article declares the class. -/
def DeclaresClass (nodes : List Node) (name : String) : Prop :=
  ∃ article ∈ preorder nodes, article.isNamed "article" = true ∧
    ∃ style ∈ article.children, style.isNamed "style" = true ∧
      Declares (styleText style).toList name

theorem isClassChar_eq_false_of_isBlank {c : Char} (h : Text.isBlank c = true) :
    isClassChar c = false := by
  have hcodes : ∀ n ∈ Text.blankCodes, isClassChar (Char.ofNat n) = false := by
    decide +kernel
  have hc := hcodes c.toNat (Text.toNat_mem_blankCodes h)
  rwa [Char.ofNat_toNat] at hc

theorem endsSelector_iff {text : List Char} : endsSelector text = true ↔
    ∃ blanks stop after, (∀ c ∈ blanks, Text.isBlank c = true) ∧ (stop = ',' ∨ stop = '\x7b') ∧
      text = blanks ++ stop :: after := by
  constructor
  · intro h
    rw [endsSelector] at h
    cases hdropped : text.dropWhile Text.isBlank with
    | nil => simp [hdropped] at h
    | cons stop after =>
        refine ⟨text.takeWhile Text.isBlank, stop, after, ?_, ?_, ?_⟩
        · exact fun c hc => List.mem_takeWhile_imp hc
        · simpa [hdropped] using h
        · rw [← hdropped, List.takeWhile_append_dropWhile]
  · rintro ⟨blanks, stop, after, hblanks, hstop, rfl⟩
    rw [endsSelector, List.dropWhile_append_of_pos hblanks]
    rcases hstop with rfl | rfl <;> rfl

/-- The name of a selector ends where blanks or its end begin. -/
theorem exists_cons_of_endsSelector {text : List Char} (h : endsSelector text = true) :
    ∃ c cs, text = c :: cs ∧ isClassChar c = false := by
  obtain ⟨blanks, stop, after, hblanks, hstop, rfl⟩ := endsSelector_iff.1 h
  cases blanks with
  | nil =>
      refine ⟨stop, after, rfl, ?_⟩
      rcases hstop with rfl | rfl <;> decide +kernel
  | cons c cs =>
      exact ⟨c, cs ++ stop :: after, rfl,
        isClassChar_eq_false_of_isBlank (hblanks c List.mem_cons_self)⟩

theorem beginsSelector_cons_iff {c : Char} : BeginsSelector name (c :: rest) ↔
    c = '.' ∧ name.toList = rest.takeWhile isClassChar ∧ name ≠ "" ∧
      endsSelector (rest.dropWhile isClassChar) = true := by
  constructor
  · rintro ⟨blanks, stop, after, hne, hname, hblanks, hstop, heq⟩
    obtain ⟨rfl, rfl⟩ := List.cons.inj heq
    have hends : endsSelector (blanks ++ stop :: after) = true :=
      endsSelector_iff.2 ⟨blanks, stop, after, hblanks, hstop, rfl⟩
    obtain ⟨d, ds, hcons, hd⟩ := exists_cons_of_endsSelector hends
    rw [List.append_assoc, List.takeWhile_append_of_pos hname, List.dropWhile_append_of_pos hname,
      hcons, List.takeWhile_cons_of_neg (by simp [hd]), List.dropWhile_cons_of_neg (by simp [hd]),
      ← hcons, List.append_nil]
    exact ⟨rfl, rfl, hne, hends⟩
  · rintro ⟨rfl, hname, hne, hends⟩
    obtain ⟨blanks, stop, after, hblanks, hstop, hrest⟩ := endsSelector_iff.1 hends
    refine ⟨blanks, stop, after, hne, ?_, hblanks, hstop, ?_⟩
    · rw [hname]
      exact fun c hc => List.mem_takeWhile_imp hc
    · rw [List.append_assoc, ← hrest, hname, List.takeWhile_append_dropWhile]

theorem declares_cons_iff {c : Char} :
    Declares (c :: rest) name ↔ BeginsSelector name (c :: rest) ∨ Declares rest name := by
  constructor
  · rintro ⟨before, text, heq, hselector⟩
    cases before with
    | nil => exact .inl (heq ▸ hselector)
    | cons d before =>
        obtain ⟨-, rfl⟩ := List.cons.inj heq
        exact .inr ⟨before, text, rfl, hselector⟩
  · rintro (hselector | ⟨before, text, rfl, hselector⟩)
    · exact ⟨[], c :: rest, rfl, hselector⟩
    · exact ⟨c :: before, text, rfl, hselector⟩

theorem mem_declaredClasses_iff : name ∈ declaredClasses sheet ↔ Declares sheet name := by
  induction sheet with
  | nil =>
      refine iff_of_false List.not_mem_nil ?_
      rintro ⟨before, text, heq, blanks, stop, after, -, -, -, -, rfl⟩
      simp at heq
  | cons c rest ih =>
      have hempty (h : name.toList = rest.takeWhile isClassChar) :
          name ≠ "" ↔ rest.takeWhile isClassChar ≠ [] := by
        rw [← h, Ne, Ne, String.toList_eq_nil_iff]
      rw [declares_cons_iff, ← ih, beginsSelector_cons_iff, declaredClasses]
      split
      · rename_i hselector
        obtain ⟨rfl, hne, hends⟩ := hselector
        rw [List.mem_cons, ← String.toList_inj, String.toList_ofList]
        refine or_congr_left ⟨fun heq => ⟨rfl, heq, (hempty heq).2 hne, hends⟩, fun h => h.2.1⟩
      · rename_i hselector
        refine (or_iff_right ?_).symm
        rintro ⟨rfl, heq, hne, hends⟩
        exact hselector ⟨rfl, (hempty heq).1 hne, hends⟩

theorem mem_hiddenClasses_iff : name ∈ hiddenClasses nodes ↔ DeclaresClass nodes name := by
  simp only [hiddenClasses, List.mem_eraseDups, List.mem_flatMap, List.mem_filter, articleClasses,
    mem_declaredClasses_iff, DeclaresClass, and_assoc]

instance (nodes : List Node) (name : String) : Decidable (DeclaresClass nodes name) :=
  decidable_of_iff _ mem_hiddenClasses_iff

end Feuilleton.ChapterPage
