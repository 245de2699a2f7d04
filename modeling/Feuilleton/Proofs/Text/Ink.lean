import Mathlib.Data.List.TakeWhile
import Feuilleton.Vocabulary.InfoField
import Feuilleton.Vocabulary.Status

/-!
# Ink

The ink of a text is what is left of it without its blanks. Trimming takes none of it away, and a
text without ink is neither a label nor the name of a status.
-/

namespace Feuilleton

namespace Text

variable {s t : String} {c : Char}

def ink (s : String) : List Char :=
  s.toList.filter (!isBlank ·)

@[simp] theorem ink_empty : ink "" = [] := rfl

@[simp] theorem ink_append (s t : String) : ink (s ++ t) = ink s ++ ink t := by
  simp [ink]

theorem ink_eq_nil_iff : ink s = [] ↔ isBlankText s = true := by
  simp [ink, isBlankText]

theorem filter_dropWhile_isBlank (cs : List Char) :
    (cs.dropWhile isBlank).filter (!isBlank ·) = cs.filter (!isBlank ·) := by
  induction cs with
  | nil => rfl
  | cons c cs ih =>
      cases hc : isBlank c with
      | true => simp [hc, ih]
      | false => simp [hc]

theorem filter_dropEndWhile_isBlank (cs : List Char) :
    (dropEndWhile isBlank cs).filter (!isBlank ·) = cs.filter (!isBlank ·) := by
  rw [dropEndWhile, List.filter_reverse, filter_dropWhile_isBlank, List.filter_reverse,
    List.reverse_reverse]

@[simp] theorem ink_trim (s : String) : ink (trim s) = ink s := by
  rw [ink, trim, String.toList_ofList, trimList, filter_dropEndWhile_isBlank,
    filter_dropWhile_isBlank, ink]

/-! ## Blank texts -/

theorem trimList_of_all_isBlank {cs : List Char} (h : cs.all isBlank = true) :
    trimList cs = [] := by
  have hdropped : cs.dropWhile isBlank = [] := by
    exact List.dropWhile_eq_nil_iff.2 (List.all_eq_true.1 h)
  rw [trimList, hdropped]
  rfl

theorem trim_eq_empty_iff : trim s = "" ↔ ink s = [] := by
  constructor
  · intro h
    rw [← ink_trim, h, ink_empty]
  · intro h
    rw [trim, trimList_of_all_isBlank (ink_eq_nil_iff.1 h)]

/-- The same text up to blanks, where both are empty or neither is. -/
structure SameInk (s t : String) : Prop where
  ink_eq : ink s = ink t
  eq_empty_iff : s = "" ↔ t = ""

namespace SameInk

theorem refl (s : String) : SameInk s s := ⟨rfl, Iff.rfl⟩

theorem isEmpty_eq (h : SameInk s t) : s.isEmpty = t.isEmpty := by
  rw [Bool.eq_iff_iff, String.isEmpty_iff, String.isEmpty_iff, h.eq_empty_iff]

theorem append (h : SameInk s t) (content : String) : SameInk (s ++ content) (t ++ content) where
  ink_eq := by rw [ink_append, ink_append, h.ink_eq]
  eq_empty_iff := by rw [String.append_eq_empty_iff, String.append_eq_empty_iff, h.eq_empty_iff]

theorem append_blank (hs : s ≠ "") (hblank : isBlankText t = true) : SameInk s (s ++ t) where
  ink_eq := by rw [ink_append, ink_eq_nil_iff.2 hblank, List.append_nil]
  eq_empty_iff := by simp [hs]

theorem trim (h : SameInk s t) : SameInk (Text.trim s) (Text.trim t) where
  ink_eq := by rw [ink_trim, ink_trim, h.ink_eq]
  eq_empty_iff := by rw [trim_eq_empty_iff, trim_eq_empty_iff, h.ink_eq]

end SameInk

/-- The codes of the blank characters. -/
def blankCodes : List Nat :=
  List.range' 9 5 ++ List.range' 28 5 ++ [0x85, 0xA0, 0x1680] ++ List.range' 0x2000 11 ++
    [0x2028, 0x2029, 0x202F, 0x205F, 0x3000]

theorem toNat_mem_blankCodes (h : isBlank c = true) : c.toNat ∈ blankCodes := by
  simp [isBlank] at h
  simp [blankCodes, List.mem_range'_1]
  omega

theorem isBlank_simpleLower (h : isBlank c = true) : isBlank (simpleLower c) = true := by
  have hcodes : ∀ n ∈ blankCodes, isBlank (simpleLower (Char.ofNat n)) = true := by
    decide +kernel
  have hc := hcodes c.toNat (toNat_mem_blankCodes h)
  rwa [Char.ofNat_toNat] at hc

theorem all_isBlank_lowerFrom {cs : List Char} (before : List Char) (h : cs.all isBlank = true) :
    (lowerFrom before cs).all isBlank = true := by
  induction cs generalizing before with
  | nil => rfl
  | cons c cs ih =>
      rw [List.all_cons, Bool.and_eq_true] at h
      have hsigma : c ≠ 'Σ' := by
        rintro rfl
        exact absurd h.1 (by decide)
      have hdotted : c ≠ 'İ' := by
        rintro rfl
        exact absurd h.1 (by decide)
      rw [lowerFrom, List.all_append, ih (c :: before) h.2, lowerBetween, if_neg hsigma,
        if_neg hdotted]
      simp [isBlank_simpleLower h.1]

end Text

variable {text : String}

theorem normalizeLabel_of_isBlankText (h : Text.isBlankText text = true) :
    normalizeLabel text = "" := by
  have hlower : (Text.lower text).toList.all Text.isBlank = true := by
    rw [Text.lower, String.toList_ofList]
    exact Text.all_isBlank_lowerFrom [] h
  rw [normalizeLabel, Text.trimList_of_all_isBlank hlower]
  rfl

theorem InfoField.ofLabel?_of_isBlankText (h : Text.isBlankText text = true) :
    ofLabel? text = none := by
  rw [ofLabel?, normalizeLabel_of_isBlankText h]
  rfl

theorem Status.ofText_of_isBlankText (h : Text.isBlankText text = true) :
    ofText text = unknown := by
  rw [ofText, normalizeLabel_of_isBlankText h]
  rfl

end Feuilleton
