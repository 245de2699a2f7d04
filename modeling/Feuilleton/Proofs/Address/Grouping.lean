import Mathlib.Data.List.Infix
import Feuilleton.Proofs.Address.Filters
import Feuilleton.Proofs.Text.Keyed

/-!
# Filters from pairs

Filters that are given as pairs are grouped by key: the keys in the order in which they come first,
the texts of each key in their own order. Nothing gets lost on the way into the address but an empty
text that is the only one of its key.
-/

namespace Feuilleton

variable {pairs : List (String × String)} {key : String}

/-! ## Groups -/

/-- The pairs of a key that are written. -/
def group (pairs : List (String × String)) (key : String) : List (String × String) :=
  match textsOf pairs key with
  | [text] => if text = "" then [] else [(key, text)]
  | texts => texts.map fun text => (key, text)

def grouped (pairs : List (String × String)) : List (String × String) :=
  (firstKeys pairs).flatMap (group pairs)

/-! ## Nothing is lost -/

/-- An empty text that is the only one of its key is left out. -/
def IsKept (pairs : List (String × String)) (pair : String × String) : Prop :=
  ¬(pair.2 = "" ∧ (textsOf pairs pair.1).length = 1)

instance (pairs : List (String × String)) : DecidablePred (IsKept pairs) :=
  fun _ => inferInstanceAs (Decidable (¬_))

theorem map_textsOf (pairs : List (String × String)) (key : String) :
    (textsOf pairs key).map (fun text => (key, text)) = pairs.filter (·.1 = key) := by
  rw [textsOf, List.map_map]
  conv_rhs => rw [← List.map_id (pairs.filter (·.1 = key))]
  apply List.map_congr_left
  intro pair hpair
  have hkey : pair.1 = key := by simpa using (List.mem_filter.1 hpair).2
  simp [← hkey]

theorem group_eq_filter (pairs : List (String × String)) (key : String) :
    group pairs key = (pairs.filter (IsKept pairs)).filter (·.1 = key) := by
  have hkept (pair : String × String) (hpair : pair ∈ pairs.filter (·.1 = key)) :
      IsKept pairs pair ↔ ¬(pair.2 = "" ∧ (textsOf pairs key).length = 1) := by
    have hkey : pair.1 = key := by simpa using (List.mem_filter.1 hpair).2
    rw [IsKept, hkey]
  rw [List.filter_comm]
  rw [← map_textsOf] at hkept ⊢
  unfold group
  split
  · rename_i text htexts
    rw [htexts] at hkept ⊢
    by_cases hempty : text = "" <;> simp [hkept, hempty]
  · rename_i hseveral
    symm
    apply List.filter_eq_self.2
    intro pair hpair
    rw [decide_eq_true_eq, hkept pair hpair]
    rintro ⟨-, hone⟩
    obtain ⟨text, htexts⟩ := List.length_eq_one_iff.1 hone
    exact hseveral text htexts

theorem flatMap_filter_perm {keys : List String} (hkeys : keys.Nodup)
    (h : ∀ pair ∈ pairs, pair.1 ∈ keys) :
    (keys.flatMap fun key => pairs.filter (·.1 = key)).Perm pairs := by
  induction keys generalizing pairs with
  | nil =>
      have hnil : pairs = [] := List.eq_nil_iff_forall_not_mem.2 fun pair hpair => by
        simpa using h pair hpair
      rw [hnil]
      exact .nil
  | cons key keys ih =>
      rw [List.nodup_cons] at hkeys
      have hothers : ∀ pair ∈ pairs.filter (fun pair => !decide (pair.1 = key)), pair.1 ∈ keys := by
        intro pair hpair
        rw [List.mem_filter] at hpair
        exact (List.mem_cons.1 (h pair hpair.1)).resolve_left (by simpa using hpair.2)
      have hsame : (keys.flatMap fun other => pairs.filter (·.1 = other)) =
          keys.flatMap fun other =>
            (pairs.filter fun pair => !decide (pair.1 = key)).filter (·.1 = other) := by
        apply List.flatMap_congr
        intro other hother
        rw [List.filter_filter]
        apply List.filter_congr
        intro pair _
        by_cases hpair : pair.1 = other
        · have hne : other ≠ key := fun heq => hkeys.1 (heq ▸ hother)
          simp [hpair, hne]
        · simp [hpair]
      rw [List.flatMap_cons, hsame]
      exact ((ih hkeys.2 hothers).append_left _).trans (List.filter_append_perm _ pairs)

theorem grouped_perm (pairs : List (String × String)) :
    (grouped pairs).Perm (pairs.filter (IsKept pairs)) := by
  rw [grouped, funext (group_eq_filter pairs)]
  apply flatMap_filter_perm (nodup_firstKeys pairs)
  intro pair hpair
  rw [firstKeys, List.mem_eraseDups]
  exact List.mem_map_of_mem (List.mem_filter.1 hpair).1

/-! ## Collecting -/

def FilterTexts.ofList : List String → FilterTexts
  | [text] => one text
  | texts => many texts

theorem FilterTexts.add_value_ofList {texts : List String} (h : texts ≠ []) (text : String) :
    (ofList texts).value.add text = (ofList (texts ++ [text])).value := by
  match texts, h with
  | [first], _ => rfl
  | first :: second :: texts, _ =>
      simp only [ofList, List.cons_append, value, FilterValue.add, List.map_cons, List.map_append,
        List.map_nil]

/-- The filters of the groups. -/
def collected (pairs : List (String × String)) : List (String × FilterValue) :=
  (firstKeys pairs).map fun key => (key, (FilterTexts.ofList (textsOf pairs key)).value)

theorem collected_concat (pairs : List (String × String)) (pair : String × String) :
    collected (pairs ++ [pair]) = replaceOrAppend pair.1
      (FilterTexts.ofList (textsOf (pairs ++ [pair]) pair.1)).value (collected pairs) := by
  rw [collected, collected]
  apply map_firstKeys_concat
  intro key hkey
  rw [textsOf_concat, if_neg (Ne.symm hkey)]

theorem collected_concat_of_mem {pair : String × String} (h : pair.1 ∈ firstKeys pairs) :
    collected (pairs ++ [pair]) = replaceOrAppend pair.1
      ((FilterTexts.ofList (textsOf pairs pair.1)).value.add pair.2) (collected pairs) := by
  rw [collected_concat, textsOf_concat, if_pos rfl,
    FilterTexts.add_value_ofList (mem_firstKeys_iff.1 h)]

theorem collected_concat_of_notMem {pair : String × String} (h : pair.1 ∉ firstKeys pairs) :
    collected (pairs ++ [pair]) =
      replaceOrAppend pair.1 (.text pair.2) (collected pairs) := by
  have hnone : textsOf pairs pair.1 = [] := by simpa [mem_firstKeys_iff] using h
  rw [collected_concat, textsOf_concat, if_pos rfl, hnone]
  rfl

theorem entries_addPair {filters : Filters} (h : filters.entries = collected pairs)
    (text : String) : (addPair filters text).entries = collected (pairs ++ [splitPair text]) := by
  have hget (key : String) : filters.get? key =
      if key ∈ firstKeys pairs then some (FilterTexts.ofList (textsOf pairs key)).value
      else none := by
    rw [OrderedMap.get?, h, collected, lookup_map]
  unfold addPair
  generalize splitPair text = pair
  dsimp only
  rw [hget]
  by_cases hknown : pair.1 ∈ firstKeys pairs
  · rw [if_pos hknown, collected_concat_of_mem hknown, ← h]
    exact OrderedMap.entries_insert _ _ _
  · rw [if_neg hknown, collected_concat_of_notMem hknown, ← h]
    exact OrderedMap.entries_insert _ _ _

theorem Filters.entries_ofPairs (texts : List String) :
    (Filters.ofPairs texts).entries = collected (texts.map splitPair) := by
  induction texts using List.reverseRecOn with
  | nil => rfl
  | append_singleton texts text ih =>
      rw [List.map_append, List.map_singleton, Filters.ofPairs, List.foldl_append, List.foldl_cons,
        List.foldl_nil]
      exact entries_addPair ih text

theorem Filters.isWritable_ofPairs (texts : List String) :
    (Filters.ofPairs texts).entries.all (·.2.isWritable) = true := by
  simp [entries_ofPairs, collected, FilterTexts.isWritable_value]

theorem FilterTexts.map_kept_ofList (pairs : List (String × String)) (key : String) :
    ((ofList (textsOf pairs key)).kept.map fun text => (key, text)) = group pairs key := by
  unfold ofList group
  split
  · rename_i text _
    rw [kept]
    by_cases h : text = "" <;> simp [h]
  · rfl

theorem Filters.writtenPairs_ofPairs (texts : List String) :
    (Filters.ofPairs texts).writtenPairs = grouped (texts.map splitPair) := by
  rw [writtenPairs, entries_ofPairs, collected, List.flatMap_map, grouped]
  congr 1
  funext key
  rw [← FilterTexts.map_kept_ofList]
  exact congrArg (List.map _) (FilterTexts.written_value _)

/-! ## Pairs in the address -/

/-- The text is cut at its first equals sign; without one it is all key. -/
def IsSplitInto (text : String) (pair : String × String) : Prop :=
  '=' ∉ pair.1.toList ∧ (text = pair.1 ++ "=" ++ pair.2 ∨ text = pair.1 ∧ pair.2 = "")

theorem isSplitInto_splitPair (text : String) : IsSplitInto text (splitPair text) := by
  have hmark : "=".toList = ['='] := by decide
  unfold splitPair
  cases hcut : Text.cut? "=" text with
  | none =>
      rw [Text.cut?_eq_none_iff, hmark, List.singleton_infix_iff] at hcut
      exact ⟨hcut, .inr ⟨rfl, rfl⟩⟩
  | some pair =>
      refine ⟨?_, .inl (Text.append_of_cut? hcut)⟩
      obtain ⟨⟨front, back⟩, hlist, rfl⟩ := Option.map_eq_some_iff.1 hcut
      rw [hmark] at hlist
      simpa using Text.notMem_of_cutList? hlist

namespace Grammar

/-- The address of the catalogue has the pairs of the texts, grouped by key, and each of them once
but for those that are left out. There is none only for a page that cannot be written. -/
structure GroupsPairs (g : Grammar) (page : Int) (latest : Bool) (texts : List String) : Prop where
  split : ∀ text ∈ texts, IsSplitInto text (splitPair text)
  address : Text.IsWritable page →
    g.catalogueUrl page latest (.ofPairs texts) = .ok (Address.collapseSlashes
      (g.site ++ g.seriesPath ++ "?page=" ++ Text.intText page ++
        (if latest then "&order=latest" else "") ++ furtherPairs (grouped (texts.map splitPair))))
  refused : ¬Text.IsWritable page →
    g.catalogueUrl page latest (.ofPairs texts) = .error .tooManyDigits
  kept : (grouped (texts.map splitPair)).Perm
    ((texts.map splitPair).filter (IsKept (texts.map splitPair)))

theorem groupsPairs_ofPairs (g : Grammar) (page : Int) (latest : Bool) (texts : List String) :
    g.GroupsPairs page latest texts where
  split := fun text _ => isSplitInto_splitPair text
  address := fun hpage => by
    rw [catalogueUrl, if_pos ⟨hpage, Filters.isWritable_ofPairs texts⟩, popularUrl,
      filterParts_eq, Filters.writtenPairs_ofPairs]
  refused := fun hpage => if_neg fun h => hpage h.1
  kept := grouped_perm _

private def filteredSite : Grammar where
  id := "t"
  sourceName := "T"
  site := "https://e.com/"

/-- A key that comes twice with another one between, an empty text that is left out and one that
stays because its key has another. -/
theorem groupsPairs_interleavedKeys :
    Text.IsWritable 2 ∧ filteredSite.catalogueUrl 2 true (.ofPairs ["b=1", "a=", "c=d=e", "b="]) =
      .ok "https://e.com/series/?page=2&order=latest&b=1&b=&c=d=e" := by
  refine ⟨by decide, ?_⟩
  rw [(groupsPairs_ofPairs _ _ _ _).address (by decide)]
  decide +kernel

example : grouped (["b=1", "a=", "c", "b=", "=x", "c=2=3"].map splitPair) =
    [("b", "1"), ("b", ""), ("c", ""), ("c", "2=3"), ("", "x")] := by decide

end Grammar

end Feuilleton
