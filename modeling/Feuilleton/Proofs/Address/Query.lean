import Feuilleton.Proofs.Address.SlashRuns

/-!
# Queries and slashes

Slashes are collapsed in a query as they are in the path before it. A query is left as it is exactly
if its own slashes stand as those of a path may: two of them together only behind a colon, or before
the end of a scheme where the address has none before the query.
-/

namespace Feuilleton

namespace Text

variable {c : Char} {pattern : List Char} {mark : String}

theorem prefix_append_cons_iff (h : c ∉ pattern) (cs tail : List Char) :
    pattern <+: cs ++ c :: tail ↔ pattern <+: cs := by
  constructor
  · intro hpart
    have hsign : cs ++ [c] <+: cs ++ c :: tail := ⟨tail, by simp⟩
    rcases List.prefix_or_prefix_of_prefix hpart hsign with hshort | hlong
    · rcases List.prefix_concat_iff.1 hshort with rfl | hcs
      · simp at h
      · exact hcs
    · exact absurd (hlong.subset (by simp)) h
  · intro hpart
    exact hpart.trans (List.prefix_append cs _)

/-- A pattern does not occur across a character that it does not have. -/
theorem cutList?_append_cons (hpattern : pattern ≠ []) (h : c ∉ pattern) (cs tail : List Char) :
    cutList? pattern (cs ++ c :: tail) =
      ((cutList? pattern cs).map fun (before, after) => (before, after ++ c :: tail)).or
        ((cutList? pattern tail).map fun (before, after) => (cs ++ c :: before, after)) := by
  have hfirst (cs : List Char) : pattern.isPrefixOf (cs ++ c :: tail) = pattern.isPrefixOf cs := by
    rw [Bool.eq_iff_iff, List.isPrefixOf_iff_prefix, List.isPrefixOf_iff_prefix,
      prefix_append_cons_iff h]
  have hempty : pattern.isEmpty = false ∧ pattern.isPrefixOf [] = false := by
    cases pattern with
    | nil => contradiction
    | cons d ds => exact ⟨rfl, rfl⟩
  induction cs with
  | nil =>
      have hnil := hfirst []
      rw [List.nil_append, hempty.2] at hnil
      simp [cutList?, hnil, hempty.1]
  | cons d cs ih =>
      have hcons := hfirst (d :: cs)
      rw [List.cons_append] at hcons ⊢
      rw [cutList?, cutList?, hcons, ih]
      split
      · rename_i hpart
        have hlength := (List.isPrefixOf_iff_prefix.1 hpart).length_le
        have hdrop : (d :: (cs ++ c :: tail)).drop pattern.length =
            (d :: cs).drop pattern.length ++ c :: tail := List.drop_append_of_le_length hlength
        rw [hdrop]
        rfl
      · cases cutList? pattern cs with
        | none =>
            rw [Option.map_none, Option.none_or, Option.map_map]
            rfl
        | some parts => rfl

/-- A sign that does not occur before is found in its place. -/
theorem cutList?_singleton {cs : List Char} (h : c ∉ cs) (tail : List Char) :
    cutList? [c] (cs ++ c :: tail) = some (cs, tail) := by
  induction cs with
  | nil => simp [cutList?]
  | cons d cs ih =>
      rw [List.mem_cons, not_or] at h
      rw [List.cons_append, cutList?, ih h.2]
      simp [h.1]

theorem notMem_of_cutList? {cs before after : List Char}
    (h : cutList? [c] cs = some (before, after)) : c ∉ before := by
  induction cs generalizing before with
  | nil => cases h
  | cons d cs ih =>
      rw [cutList?] at h
      split at h
      · cases h
        exact List.not_mem_nil
      · rename_i hfirst
        obtain ⟨⟨front, back⟩, hcut, heq⟩ := Option.map_eq_some_iff.1 h
        cases heq
        have hne : c ≠ d := by simpa using hfirst
        exact List.not_mem_cons_of_ne_of_not_mem hne (ih hcut)

theorem toList_append_query (lead query : String) :
    (lead ++ "?" ++ query).toList = lead.toList ++ '?' :: query.toList := by
  simp

theorem cut?_append_query (hmark : mark.toList ≠ []) (h : '?' ∉ mark.toList)
    (lead query : String) : cut? mark (lead ++ "?" ++ query) =
      ((cut? mark lead).map fun (before, after) => (before, after ++ "?" ++ query)).or
        ((cut? mark query).map fun (before, after) => (lead ++ "?" ++ before, after)) := by
  unfold cut?
  rw [toList_append_query, cutList?_append_cons hmark h]
  cases cutList? mark.toList lead.toList with
  | none =>
      cases cutList? mark.toList query.toList with
      | none => rfl
      | some parts => simp [← String.toList_inj]
  | some parts => simp [← String.toList_inj]

theorem cut?_query {lead : String} (h : '?' ∉ lead.toList) (query : String) :
    cut? "?" (lead ++ "?" ++ query) = some (lead, query) := by
  have hmark : "?".toList = ['?'] := by decide
  rw [cut?, hmark, toList_append_query, cutList?_singleton h]
  simp

theorem append_query_inj {lead lead' query query' : String} (h : '?' ∉ lead.toList)
    (h' : '?' ∉ lead'.toList) :
    lead ++ "?" ++ query = lead' ++ "?" ++ query' ↔ lead = lead' ∧ query = query' := by
  constructor
  · intro heq
    have hcut := cut?_query h query
    rw [heq, cut?_query h'] at hcut
    simpa [eq_comm] using hcut
  · rintro ⟨rfl, rfl⟩
    rfl

end Text

namespace Address

variable {lead url query : String}

/-! ## Both parts -/

/-- What becomes of a query. -/
def collapsedQuery (lead query : String) : String :=
  if Text.occursIn "://" lead then collapseRuns query else collapseSlashes query

/-- What becomes of the part before a query. A separator of a scheme within the query counts as the
first one if there is none before. -/
def collapsedLead (lead query : String) : String :=
  if Text.occursIn "://" lead = false ∧ Text.occursIn "://" query then lead
  else collapseSlashes lead

theorem collapseRuns_append_query (lead query : String) :
    collapseRuns (lead ++ "?" ++ query) = collapseRuns lead ++ "?" ++ collapseRuns query := by
  rw [← String.toList_inj, toList_collapseRuns, Text.toList_append_query,
    Text.toList_append_query, toList_collapseRuns, toList_collapseRuns,
    collapseFrom_append_foldl, collapseFrom_cons_of_ne (by decide)]
  rfl

theorem collapseSlashes_append_query (lead query : String) :
    collapseSlashes (lead ++ "?" ++ query) =
      collapsedLead lead query ++ "?" ++ collapsedQuery lead query := by
  have hmark : "://".toList ≠ [] := by decide
  have hcut := Text.cut?_append_query hmark (by decide) lead query
  unfold collapsedLead collapsedQuery
  rw [← Text.isSome_cut?, ← Text.isSome_cut?]
  cases hlead : Text.cut? "://" lead with
  | some parts =>
      rw [hlead, Option.map_some, Option.some_or] at hcut
      rw [collapseSlashes_of_some hcut, collapseRuns_append_query]
      simp [collapseSlashes_of_some hlead, String.append_assoc]
  | none =>
      cases hquery : Text.cut? "://" query with
      | some parts =>
          rw [hlead, hquery, Option.map_none, Option.none_or, Option.map_some] at hcut
          rw [collapseSlashes_of_some hcut]
          simp [collapseSlashes_of_some hquery, String.append_assoc]
      | none =>
          rw [hlead, hquery, Option.map_none, Option.map_none, Option.none_or] at hcut
          rw [collapseSlashes_of_none hcut, collapseRuns_append_query]
          simp [collapseSlashes_of_none hlead, collapseSlashes_of_none hquery]

/-! ## Queries that stay -/

theorem collapseSlashes_eq_self_iff :
    collapseSlashes url = url ↔ IsTight (behindScheme url).toList := by
  rw [← collapseRuns_eq_self_iff, behindScheme]
  cases hcut : Text.cut? "://" url with
  | none => rw [collapseSlashes_of_none hcut]
  | some parts =>
      rw [collapseSlashes_of_some hcut]
      conv_lhs => rw [Text.append_of_cut? hcut]
      exact String.append_right_inj _

/-- The slashes of a query stand as they may behind the part before it. -/
def KeepsSlashes (lead query : String) : Prop :=
  IsTight (if Text.occursIn "://" lead then query else behindScheme query).toList

instance (lead query : String) : Decidable (KeepsSlashes lead query) :=
  inferInstanceAs (Decidable (IsTight _))

theorem collapsedQuery_eq_self_iff :
    collapsedQuery lead query = query ↔ KeepsSlashes lead query := by
  unfold collapsedQuery KeepsSlashes
  split
  · exact collapseRuns_eq_self_iff
  · exact collapseSlashes_eq_self_iff

theorem collapsedLead_eq_iff : collapsedLead url query = collapseSlashes url ↔
    (Text.occursIn "://" url = false → Text.occursIn "://" query = true → IsTight url.toList) := by
  unfold collapsedLead
  split
  · rename_i hschemes
    have hnone : Text.cut? "://" url = none := by
      rw [← Option.not_isSome_iff_eq_none, Text.isSome_cut?, hschemes.1]
      decide
    rw [collapseSlashes_of_none hnone, eq_comm, collapseRuns_eq_self_iff]
    exact ⟨fun h _ _ => h, fun h => h hschemes.1 hschemes.2⟩
  · rename_i hschemes
    exact ⟨fun _ hurl hquery => absurd ⟨hurl, hquery⟩ hschemes, fun _ => rfl⟩

theorem notMem_collapsedLead (h : '?' ∉ lead.toList) (query : String) :
    '?' ∉ (collapsedLead lead query).toList := by
  unfold collapsedLead
  split
  · exact h
  · rwa [(shortensRuns_collapseSlashes lead).mem_iff (by decide)]

/-- Only what stands before the query is collapsed. -/
def KeepsQuery (url query : String) : Prop :=
  collapseSlashes (url ++ "?" ++ query) = collapseSlashes url ++ "?" ++ query

/-- A query is kept exactly if its slashes stand as they may. Where only the query has a scheme, it
is the part before it that must not need any change. -/
theorem keepsQuery_iff (h : '?' ∉ url.toList) (query : String) : KeepsQuery url query ↔
    KeepsSlashes url query ∧
      (Text.occursIn "://" url = false → Text.occursIn "://" query = true →
        IsTight url.toList) := by
  have hcollapsed : '?' ∉ (collapseSlashes url).toList := by
    rwa [(shortensRuns_collapseSlashes url).mem_iff (by decide)]
  rw [KeepsQuery, collapseSlashes_append_query,
    Text.append_query_inj (notMem_collapsedLead h query) hcollapsed, collapsedLead_eq_iff,
    collapsedQuery_eq_self_iff, and_comm]

/-- A nested address is kept where its slashes are not doubled, whatever the path needs. -/
theorem keepsQuery_nestedAddress : '?' ∉ "https://e.com//a".toList ∧
    KeepsQuery "https://e.com//a" "next=https://e.org/b" ∧
      ¬KeepsQuery "https://e.com//a" "next=https://e.org//b" := by
  refine ⟨by decide, (keepsQuery_iff (by decide) _).2 ?_, mt (keepsQuery_iff (by decide) _).1 ?_⟩
  · decide +kernel
  · decide +kernel

/-- A token with a doubled slash does not arrive as it was written. -/
theorem not_keepsQuery_slashedToken :
    '?' ∉ "https://e.com/a".toList ∧ ¬KeepsQuery "https://e.com/a" "token=b//c" := by
  unfold KeepsQuery
  decide +kernel

end Address

end Feuilleton
