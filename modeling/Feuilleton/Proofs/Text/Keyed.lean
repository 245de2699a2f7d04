import Mathlib.Data.List.Induction
import Feuilleton.OrderedMap

/-!
# Texts under keys

Pairs of a key and a text that come one after the other. The keys stand in the order in which they
come first. A map that is made of the pairs has these keys, each with the last text under it.
-/

namespace Feuilleton

variable {pairs : List (String × String)} {key : String}

/-- The keys in the order in which they come first. -/
def firstKeys (pairs : List (String × String)) : List String :=
  (pairs.map Prod.fst).eraseDups

/-- All texts of a key, in order. -/
def textsOf (pairs : List (String × String)) (key : String) : List String :=
  (pairs.filter (·.1 = key)).map Prod.snd

theorem firstKeys_concat (pairs : List (String × String)) (pair : String × String) :
    firstKeys (pairs ++ [pair]) =
      if pair.1 ∈ firstKeys pairs then firstKeys pairs else firstKeys pairs ++ [pair.1] := by
  simp only [firstKeys, List.map_append, List.eraseDups_append, List.mem_eraseDups]
  by_cases h : pair.1 ∈ pairs.map Prod.fst
  · simp [List.removeAll, h]
  · simp [List.removeAll, h, List.eraseDups_cons]

theorem mem_firstKeys_iff : key ∈ firstKeys pairs ↔ textsOf pairs key ≠ [] := by
  simp [firstKeys, textsOf]

theorem nodup_firstKeys (pairs : List (String × String)) : (firstKeys pairs).Nodup := by
  induction pairs using List.reverseRecOn with
  | nil => exact List.nodup_nil
  | append_singleton pairs pair ih =>
      rw [firstKeys_concat]
      split
      · exact ih
      · rename_i hnew
        refine List.nodup_append.2 ⟨ih, by simp, ?_⟩
        rintro known hknown new hmem rfl
        rw [List.mem_singleton] at hmem
        exact hnew (hmem ▸ hknown)

theorem textsOf_concat (pairs : List (String × String)) (pair : String × String) (key : String) :
    textsOf (pairs ++ [pair]) key =
      if pair.1 = key then textsOf pairs key ++ [pair.2] else textsOf pairs key := by
  by_cases h : pair.1 = key <;> simp [textsOf, List.filter_append, h]

/-! ## Entries -/

section Entries

variable {β : Type}

theorem lookup_map (keys : List String) (f : String → β) (key : String) :
    (keys.map fun other => (other, f other)).lookup key =
      if key ∈ keys then some (f key) else none := by
  induction keys with
  | nil => rfl
  | cons first keys ih =>
      rw [List.map_cons, List.lookup_cons, ih]
      by_cases hfirst : key = first
      · simp [hfirst]
      · have hb : (key == first) = false := by simpa using hfirst
        simp [hfirst, hb]

theorem replaceOrAppend_map {keys : List String} (hkeys : keys.Nodup)
    (hkey : key ∈ keys) (f : String → β) (value : β) :
    replaceOrAppend key value (keys.map fun other => (other, f other)) =
      keys.map fun other => (other, if other = key then value else f other) := by
  induction keys with
  | nil => cases hkey
  | cons first keys ih =>
      rw [List.nodup_cons] at hkeys
      rw [List.map_cons, List.map_cons, replaceOrAppend]
      split
      · rename_i hfirst
        subst hfirst
        have hothers : ∀ other ∈ keys, (other, f other) =
            (other, if other = first then value else f other) := by
          intro other hother
          have hne : other ≠ first := fun heq => hkeys.1 (heq ▸ hother)
          rw [if_neg hne]
        rw [List.map_congr_left hothers]
      · rename_i hfirst
        have hlater := (List.mem_cons.1 hkey).resolve_left (Ne.symm hfirst)
        rw [ih hkeys.2 hlater]

/-- One pair more changes the entry of its key, or adds one at the end. -/
theorem map_firstKeys_concat {pair : String × String} {f g : String → β}
    (h : ∀ key, key ≠ pair.1 → g key = f key) :
    (firstKeys (pairs ++ [pair])).map (fun key => (key, g key)) =
      replaceOrAppend pair.1 (g pair.1) ((firstKeys pairs).map fun key => (key, f key)) := by
  by_cases hknown : pair.1 ∈ firstKeys pairs
  · rw [firstKeys_concat, if_pos hknown, replaceOrAppend_map (nodup_firstKeys pairs) hknown]
    apply List.map_congr_left
    intro key _
    by_cases hkey : key = pair.1
    · rw [if_pos hkey, hkey]
    · rw [if_neg hkey, h key hkey]
  · have hnew : pair.1 ∉ ((firstKeys pairs).map fun key => (key, f key)).map Prod.fst := by
      simpa [Function.comp_def] using hknown
    have hothers : ∀ key ∈ firstKeys pairs, (key, g key) = (key, f key) := by
      intro key hkey
      rw [h key fun heq => hknown (heq ▸ hkey)]
    rw [replaceOrAppend_of_notMem _ hnew, firstKeys_concat, if_neg hknown, List.map_append,
      List.map_congr_left hothers, List.map_singleton]

end Entries

/-! ## The last text of each key -/

/-- The keys in the order in which they come first, each with the last of its texts. -/
def lastTexts (pairs : List (String × String)) : List (String × String) :=
  (firstKeys pairs).map fun key => (key, (textsOf pairs key).getLastD "")

theorem nodup_lastTexts (pairs : List (String × String)) :
    ((lastTexts pairs).map Prod.fst).Nodup := by
  simpa [lastTexts, Function.comp_def] using nodup_firstKeys pairs

theorem lastTexts_concat (pairs : List (String × String)) (pair : String × String) :
    lastTexts (pairs ++ [pair]) = replaceOrAppend pair.1 pair.2 (lastTexts pairs) := by
  have hothers (key : String) (hkey : key ≠ pair.1) :
      (textsOf (pairs ++ [pair]) key).getLastD "" = (textsOf pairs key).getLastD "" := by
    rw [textsOf_concat, if_neg (Ne.symm hkey)]
  rw [lastTexts, map_firstKeys_concat hothers, textsOf_concat, if_pos rfl, List.getLastD_concat,
    lastTexts]

theorem OrderedMap.entries_ofList (pairs : List (String × String)) :
    (ofList pairs).entries = lastTexts pairs := by
  induction pairs using List.reverseRecOn with
  | nil => rfl
  | append_singleton pairs pair ih =>
      rw [lastTexts_concat, ← ih, ofList, List.foldl_append]
      rfl

end Feuilleton
