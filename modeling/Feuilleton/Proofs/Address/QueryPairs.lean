import Mathlib.Data.List.Forall2
import Feuilleton.Address.Filter
import Feuilleton.Proofs.Address.Percent
import Feuilleton.Proofs.Address.Query

/-!
# Pairs in queries

A query is read by cutting it at every ampersand and each piece at its first equals sign, and by
decoding what escapes there are. Pairs that were written without any encoding are read back exactly
if none of these signs stands in a wrong place, and no slash between them has been lost.
-/

namespace Feuilleton

namespace Text

theorem splitList_eq_splitOn (separator : Char) (cs : List Char) :
    splitList separator cs = cs.splitOn separator := by
  induction cs with
  | nil => rfl
  | cons c cs ih =>
      rw [splitList, List.splitOn_cons_eq_if_modifyHead, ih]
      by_cases hc : c = separator
      · simp [hc]
      · cases hpieces : cs.splitOn separator with
        | nil => exact absurd hpieces (List.splitOn_ne_nil separator cs)
        | cons piece pieces => simp [hc]

theorem length_splitOn (separator : Char) (cs : List Char) :
    (cs.splitOn separator).length = cs.count separator + 1 := by
  induction cs with
  | nil => rfl
  | cons c cs ih =>
      rw [List.splitOn_cons_eq_if_modifyHead, List.count_cons]
      split <;> simp [ih]

theorem length_splitOn_intercalate {parts : List (List Char)} (separator : Char)
    (hparts : parts ≠ []) :
    (([separator].intercalate parts).splitOn separator).length =
      parts.flatten.count separator + parts.length := by
  induction parts with
  | nil => contradiction
  | cons part parts ih =>
      cases parts with
      | nil => simp [length_splitOn]
      | cons next parts =>
          rw [List.intercalate_cons_cons, List.append_assoc, List.singleton_append,
            List.splitOn_append_cons_self, List.length_append, ih (List.cons_ne_nil _ _),
            length_splitOn]
          simp only [List.flatten_cons, List.count_append, List.length_cons]
          omega

end Text

namespace Address

variable {pair : String × String} {pairs : List (String × String)} {part cs : List Char}
  {parts : List (List Char)}

/-- The text of a pair in a query, without any encoding. -/
def pairText (pair : String × String) : List Char :=
  pair.1.toList ++ '=' :: pair.2.toList

def writePairs (pairs : List (String × String)) : String :=
  String.ofList (['&'].intercalate (pairs.map pairText))

def readPair (part : String) : String × String :=
  let (key, value) := splitPair part
  (percentDecode key, percentDecode value)

/-- The pairs of the query, which begins behind the first question mark. -/
def queryPairs (url : String) : List (String × String) :=
  match Text.cut? "?" url with
  | some (_, query) => (Text.split '&' query).map readPair
  | none => []

/-- Neither key nor value has anything that is read as something else. -/
structure IsPlainPair (pair : String × String) : Prop where
  ampersand_key : '&' ∉ pair.1.toList
  ampersand_value : '&' ∉ pair.2.toList
  equals_key : '=' ∉ pair.1.toList
  escape_key : ¬HasEscape pair.1.toList
  escape_value : ¬HasEscape pair.2.toList

instance (pair : String × String) : Decidable (IsPlainPair pair) :=
  decidable_of_iff ('&' ∉ pair.1.toList ∧ '&' ∉ pair.2.toList ∧ '=' ∉ pair.1.toList ∧
      ¬HasEscape pair.1.toList ∧ ¬HasEscape pair.2.toList)
    ⟨fun ⟨h₁, h₂, h₃, h₄, h₅⟩ => ⟨h₁, h₂, h₃, h₄, h₅⟩, fun ⟨h₁, h₂, h₃, h₄, h₅⟩ =>
      ⟨h₁, h₂, h₃, h₄, h₅⟩⟩

/-! ## One pair -/

theorem splitPair_append {key : List Char} (h : '=' ∉ key) (value : List Char) :
    splitPair (String.ofList (key ++ '=' :: value)) =
      (String.ofList key, String.ofList value) := by
  have hmark : "=".toList = ['='] := by decide
  rw [splitPair, Text.cut?, hmark, String.toList_ofList, Text.cutList?_singleton h]
  rfl

theorem readPair_append {key : List Char} (h : '=' ∉ key) (value : List Char) :
    readPair (String.ofList (key ++ '=' :: value)) =
      (percentDecode (String.ofList key), percentDecode (String.ofList value)) := by
  rw [readPair, splitPair_append h]

theorem readPair_pairText (h : IsPlainPair pair) :
    readPair (String.ofList (pairText pair)) = pair := by
  rw [pairText, readPair_append h.equals_key, String.ofList_toList, String.ofList_toList,
    percentDecode_eq_self_iff.2 h.escape_key, percentDecode_eq_self_iff.2 h.escape_value]

/-- What is decoded to the text from which it was shortened is this text. -/
theorem eq_of_percentDecode_eq {s : String} (hruns : ShortensRuns s.toList cs)
    (h : percentDecode (String.ofList cs) = s) : cs = s.toList ∧ ¬HasEscape s.toList := by
  have hdecoded := length_percentDecode_le (String.ofList cs)
  rw [h, ← String.length_toList, String.length_ofList] at hdecoded
  have hsame : cs = s.toList :=
    hruns.sublist.eq_of_length (Nat.le_antisymm hruns.sublist.length_le hdecoded)
  rw [hsame, String.ofList_toList] at h
  exact ⟨hsame, percentDecode_eq_self_iff.1 h⟩

/-- A pair that is read back from its text, with slashes left out or not, has no sign in a wrong
place, and no slash is missing. -/
theorem eq_pairText_of_readPair (hruns : ShortensRuns (pairText pair) part)
    (h : readPair (String.ofList part) = pair) :
    part = pairText pair ∧ '=' ∉ pair.1.toList ∧ ¬HasEscape pair.1.toList ∧
      ¬HasEscape pair.2.toList := by
  obtain ⟨key, value, rfl, hkey, hvalue⟩ := hruns.exists_append_cons (by decide)
  have hequals : '=' ∉ key := by
    -- otherwise the key that is read ends before the one that was written
    intro hmem
    obtain ⟨front, back, rfl, hfront⟩ := List.eq_append_cons_of_mem hmem
    rw [List.append_assoc, List.cons_append, readPair_append hfront] at h
    have hfirst : percentDecode (String.ofList front) = pair.1 := congrArg Prod.fst h
    have hread := length_percentDecode_le (String.ofList front)
    have hshorter := hkey.sublist.length_le
    rw [hfirst, ← String.length_toList, String.length_ofList] at hread
    simp at hshorter
    omega
  rw [readPair_append hequals] at h
  obtain ⟨rfl, hescape⟩ := eq_of_percentDecode_eq hkey (congrArg Prod.fst h)
  obtain ⟨rfl, hescape'⟩ := eq_of_percentDecode_eq hvalue (congrArg Prod.snd h)
  exact ⟨rfl, hequals, hescape, hescape'⟩

/-! ## All pairs -/

theorem ShortensRuns.count_eq {ds : List Char} {c : Char} (h : ShortensRuns cs ds) (hc : c ≠ '/') :
    ds.count c = cs.count c := by
  rw [← List.count_filter (p := fun d => d ≠ '/') (by simpa using hc), h.filter_eq,
    List.count_filter (by simpa using hc)]

/-- As many pieces as there are parts: no part has been cut. -/
theorem notMem_of_length_splitOn (hparts : parts ≠ [])
    (hruns : ShortensRuns (['&'].intercalate parts) cs)
    (h : (cs.splitOn '&').length = parts.length) : ∀ part ∈ parts, '&' ∉ part := by
  have hpieces := Text.length_splitOn_intercalate '&' hparts
  rw [Text.length_splitOn, ← hruns.count_eq (by decide), ← Text.length_splitOn, h] at hpieces
  have hnone : parts.flatten.count '&' = 0 := by omega
  intro part hpart hmem
  exact List.count_eq_zero.1 hnone (List.mem_flatten_of_mem hpart hmem)

theorem forall₂_splitOn (hparts : parts ≠ []) (h : ∀ part ∈ parts, '&' ∉ part)
    (hruns : ShortensRuns (['&'].intercalate parts) cs) :
    List.Forall₂ ShortensRuns parts (cs.splitOn '&') := by
  induction parts generalizing cs with
  | nil => contradiction
  | cons part parts ih =>
      rw [List.forall_mem_cons] at h
      cases parts with
      | nil =>
          rw [List.intercalate_singleton] at hruns
          rw [List.splitOn_eq_singleton (by rw [hruns.mem_iff (by decide)]; exact h.1)]
          exact .cons hruns .nil
      | cons next parts =>
          rw [List.intercalate_cons_cons, List.append_assoc, List.singleton_append] at hruns
          obtain ⟨front, back, rfl, hfront, hback⟩ := hruns.exists_append_cons (by decide)
          rw [List.splitOn_append_cons_self_of_not_mem
            (by rw [hfront.mem_iff (by decide)]; exact h.1)]
          exact .cons hfront (ih (List.cons_ne_nil _ _) h.2 hback)

theorem eq_pairTexts_of_readPairs (hruns : List.Forall₂ ShortensRuns (pairs.map pairText) parts)
    (h : parts.map (fun part => readPair (String.ofList part)) = pairs) :
    parts = pairs.map pairText ∧ ∀ pair ∈ pairs, '=' ∉ pair.1.toList ∧
      ¬HasEscape pair.1.toList ∧ ¬HasEscape pair.2.toList := by
  induction pairs generalizing parts with
  | nil =>
      cases hruns
      exact ⟨rfl, by simp⟩
  | cons pair pairs ih =>
      cases hruns with
      | cons hpart hparts =>
          obtain ⟨hread, hreads⟩ := List.cons.inj h
          obtain ⟨rfl, hpair⟩ := eq_pairText_of_readPair hpart hread
          obtain ⟨rfl, hpairs⟩ := ih hparts hreads
          exact ⟨rfl, List.forall_mem_cons.2 ⟨hpair, hpairs⟩⟩

theorem map_readPair_writePairs (hpairs : pairs ≠ [])
    (hplain : ∀ pair ∈ pairs, IsPlainPair pair) :
    (Text.split '&' (writePairs pairs)).map readPair = pairs := by
  have hampersands : ∀ part ∈ pairs.map pairText, '&' ∉ part := by
    intro part hpart
    obtain ⟨pair, hpair, rfl⟩ := List.mem_map.1 hpart
    simp [pairText, (hplain pair hpair).ampersand_key, (hplain pair hpair).ampersand_value]
  have hparts : pairs.map pairText ≠ [] := by simpa using hpairs
  rw [Text.split, Text.splitList_eq_splitOn, writePairs, String.toList_ofList,
    List.splitOn_intercalate _ hampersands hparts, List.map_map, List.map_map]
  conv_rhs => rw [← List.map_id pairs]
  apply List.map_congr_left
  intro pair hpair
  exact readPair_pairText (hplain pair hpair)

/-- Pairs are read back from a query in which slashes may have been left out exactly if they are
plain and none has been left out. -/
theorem readPairs_eq_iff {query : String} (hpairs : pairs ≠ [])
    (hruns : ShortensRuns (writePairs pairs).toList query.toList) :
    (Text.split '&' query).map readPair = pairs ↔
      (∀ pair ∈ pairs, IsPlainPair pair) ∧ query = writePairs pairs := by
  constructor
  · intro h
    have hparts : pairs.map pairText ≠ [] := by simpa using hpairs
    rw [writePairs, String.toList_ofList] at hruns
    rw [Text.split, Text.splitList_eq_splitOn, List.map_map] at h
    have hlength := congrArg List.length h
    rw [List.length_map] at hlength
    have hampersands := notMem_of_length_splitOn hparts hruns (by rw [hlength, List.length_map])
    obtain ⟨hsame, hplain⟩ :=
      eq_pairTexts_of_readPairs (forall₂_splitOn hparts hampersands hruns) h
    refine ⟨?_, ?_⟩
    · intro pair hpair
      have hampersand := hampersands _ (List.mem_map_of_mem hpair)
      rw [pairText, List.mem_append, List.mem_cons, not_or, not_or] at hampersand
      obtain ⟨hequals, hkey, hvalue⟩ := hplain pair hpair
      exact ⟨hampersand.1, hampersand.2.2, hequals, hkey, hvalue⟩
    · rw [writePairs, ← hsame, List.intercalate_splitOn, String.ofList_toList]
  · rintro ⟨hplain, rfl⟩
    exact map_readPair_writePairs hpairs hplain

/-- The same for the query of an address behind any part before it. -/
theorem queryPairs_collapseSlashes_iff {lead : String} (hlead : '?' ∉ lead.toList)
    (hpairs : pairs ≠ []) :
    queryPairs (collapseSlashes (lead ++ "?" ++ writePairs pairs)) = pairs ↔
      (∀ pair ∈ pairs, IsPlainPair pair) ∧ KeepsSlashes lead (writePairs pairs) := by
  have hruns : ShortensRuns (writePairs pairs).toList
      (collapsedQuery lead (writePairs pairs)).toList := by
    unfold collapsedQuery
    split
    · exact shortensRuns_collapseRuns _
    · exact shortensRuns_collapseSlashes _
  rw [collapseSlashes_append_query, queryPairs, Text.cut?_query (notMem_collapsedLead hlead _),
    readPairs_eq_iff hpairs hruns, collapsedQuery_eq_self_iff]

end Address

end Feuilleton
