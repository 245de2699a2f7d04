import Mathlib.Data.List.Basic
import Feuilleton.Address.Slashes

/-!
# Doubled slashes of longer addresses

What is added to an address and holds no slash stays as it is, and changes nothing before it.
-/

namespace Feuilleton

namespace Text

variable {c : Char} {pattern tail : List Char}

theorem prefix_append_iff (hlast : pattern.getLast? = some c) (h : c ∉ tail) (cs : List Char) :
    pattern <+: cs ++ tail ↔ pattern <+: cs := by
  constructor
  · intro hpart
    rcases List.prefix_or_prefix_of_prefix hpart (List.prefix_append cs tail) with hcs | hlonger
    · exact hcs
    obtain ⟨more, rfl⟩ := hlonger
    rw [List.prefix_append_right_inj] at hpart
    cases more with
    | nil => exact ⟨[], by simp⟩
    | cons d ds =>
        -- what goes beyond `cs` ends in the last character of the pattern
        rw [List.getLast?_append_of_ne_nil _ (List.cons_ne_nil d ds)] at hlast
        exact absurd (hpart.subset (List.mem_of_getLast? hlast)) h
  · intro hpart
    exact hpart.trans (List.prefix_append cs tail)

theorem isPrefixOf_append (hlast : pattern.getLast? = some c) (h : c ∉ tail) (cs : List Char) :
    pattern.isPrefixOf (cs ++ tail) = pattern.isPrefixOf cs := by
  rw [Bool.eq_iff_iff, List.isPrefixOf_iff_prefix, List.isPrefixOf_iff_prefix,
    prefix_append_iff hlast h]

theorem cutList?_eq_none (hlast : pattern.getLast? = some c) (h : c ∉ tail) :
    cutList? pattern tail = none := by
  have hnil : pattern.isEmpty = false ∧ pattern.isPrefixOf [] = false := by
    cases pattern with
    | nil => cases hlast
    | cons d ds => exact ⟨rfl, rfl⟩
  induction tail with
  | nil =>
      rw [cutList?, hnil.1]
      rfl
  | cons d tail ih =>
      have hpart := isPrefixOf_append hlast h []
      rw [List.nil_append, hnil.2] at hpart
      rw [cutList?, hpart, ih (mt (List.mem_cons_of_mem d) h)]
      rfl

/-- The first occurrence of a pattern does not change if the last character of the pattern is not
among those that are added. -/
theorem cutList?_append (hlast : pattern.getLast? = some c) (h : c ∉ tail) (cs : List Char) :
    cutList? pattern (cs ++ tail) =
      (cutList? pattern cs).map fun (before, after) => (before, after ++ tail) := by
  induction cs with
  | nil =>
      rw [List.nil_append, cutList?_eq_none hlast h, cutList?_eq_none hlast List.not_mem_nil]
      rfl
  | cons d cs ih =>
      have hpart := isPrefixOf_append hlast h (d :: cs)
      rw [List.cons_append] at hpart ⊢
      rw [cutList?, cutList?, hpart, ih]
      split
      · rename_i hfirst
        have hlength := (List.isPrefixOf_iff_prefix.1 hfirst).length_le
        have hdrop : (d :: (cs ++ tail)).drop pattern.length =
            (d :: cs).drop pattern.length ++ tail := List.drop_append_of_le_length hlength
        rw [hdrop]
        rfl
      · rw [Option.map_map, Option.map_map]
        rfl

theorem cut?_append {mark s : String} (hlast : mark.toList.getLast? = some c) (h : c ∉ s.toList)
    (t : String) :
    cut? mark (t ++ s) = (cut? mark t).map fun (before, after) => (before, after ++ s) := by
  unfold cut?
  rw [String.toList_append, cutList?_append hlast h, Option.map_map, Option.map_map]
  congr 1
  funext parts
  simp

end Text

namespace Address

variable {tail : List Char} {s : String}

theorem collapseFrom_eq_self (h : '/' ∉ tail) (allowed : Nat) :
    collapseFrom allowed tail = tail := by
  induction tail generalizing allowed with
  | nil => rfl
  | cons c tail ih =>
      rw [List.mem_cons, not_or] at h
      simp [collapseFrom, Ne.symm h.1, ih h.2]

theorem collapseFrom_append (h : '/' ∉ tail) (allowed : Nat) (cs : List Char) :
    collapseFrom allowed (cs ++ tail) = collapseFrom allowed cs ++ tail := by
  induction cs generalizing allowed with
  | nil => exact collapseFrom_eq_self h allowed
  | cons c cs ih =>
      by_cases hc : c = '/'
      · cases allowed <;> simp [collapseFrom, hc, ih]
      · simp [collapseFrom, hc, ih]

theorem collapseRuns_append (h : '/' ∉ s.toList) (t : String) :
    collapseRuns (t ++ s) = collapseRuns t ++ s := by
  rw [collapseRuns, collapseRuns, String.toList_append, collapseFrom_append h, String.ofList_append,
    String.ofList_toList]

theorem collapseSlashes_append (h : '/' ∉ s.toList) (t : String) :
    collapseSlashes (t ++ s) = collapseSlashes t ++ s := by
  have hlast : "://".toList.getLast? = some '/' := by decide
  unfold collapseSlashes
  rw [Text.cut?_append hlast h]
  cases Text.cut? "://" t with
  | none => exact collapseRuns_append h t
  | some parts => simp only [Option.map_some, collapseRuns_append h, String.append_assoc]

end Address

end Feuilleton
