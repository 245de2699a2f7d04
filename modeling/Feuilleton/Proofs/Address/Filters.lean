import Feuilleton.Address.Catalogue
import Feuilleton.Proofs.Address.QueryPairs

/-!
# Filters in addresses of the catalogue

Filters are written into the address of the catalogue as they are, without any encoding. They are
read back from it exactly if they hold none of the signs that divide or encode a query and no run of
slashes that would be shortened; what else is read back was not asked for.
-/

namespace Feuilleton

theorem Text.toList_join_empty (pieces : List String) :
    (Text.join "" pieces).toList = pieces.flatMap String.toList := by
  rw [Text.join, String.toList_intercalate]
  induction pieces with
  | nil => rfl
  | cons piece pieces ih =>
      cases pieces with
      | nil => simp
      | cons next pieces =>
          rw [List.map_cons, List.map_cons, List.intercalate_cons_cons, ← List.map_cons, ih]
          simp

/-! ## Filters of texts -/

/-- What is asked for by one key: a text or several. -/
inductive FilterTexts
  | one (text : String)
  | many (texts : List String)
deriving DecidableEq, Repr

namespace FilterTexts

def value : FilterTexts → FilterValue
  | one text => .text text
  | many texts => .list (texts.map .text)

/-- A single text is left out if it is empty. -/
def kept : FilterTexts → List String
  | one text => if text = "" then [] else [text]
  | many texts => texts

theorem written_value (texts : FilterTexts) : texts.value.written = texts.kept := by
  cases texts with
  | one text =>
      rw [value, kept, FilterValue.written, FilterValue.isSet, FilterValue.display]
      · by_cases h : text = "" <;> simp [h]
      · exact nofun
  | many texts =>
      rw [value, kept, FilterValue.written, List.map_map]
      conv_rhs => rw [← List.map_id texts]
      rfl

end FilterTexts

/-- The pairs that are kept, in the order of their keys and of the texts of each. -/
def keptPairs (filters : OrderedMap FilterTexts) : List (String × String) :=
  filters.entries.flatMap fun (key, texts) => texts.kept.map fun text => (key, text)

def Filters.ofTexts (filters : OrderedMap FilterTexts) : Filters where
  entries := filters.entries.map fun (key, texts) => (key, texts.value)
  nodup_keys := by
    rw [List.map_map]
    exact filters.nodup_keys

def Filters.writtenPairs (filters : Filters) : List (String × String) :=
  filters.entries.flatMap fun (key, value) => value.written.map fun text => (key, text)

theorem FilterTexts.isWritable_value (texts : FilterTexts) : texts.value.isWritable = true := by
  cases texts with
  | one text => rfl
  | many texts =>
      rw [value, FilterValue.isWritable]
      induction texts with
      | nil => rfl
      | cons text texts ih =>
          rw [List.map_cons, FilterValue.areWritable, ih, FilterValue.isWritable, Bool.and_true]
          all_goals exact nofun

theorem Filters.isWritable_ofTexts (filters : OrderedMap FilterTexts) :
    (Filters.ofTexts filters).entries.all (·.2.isWritable) = true := by
  simp [ofTexts, FilterTexts.isWritable_value]

theorem Filters.writtenPairs_ofTexts (filters : OrderedMap FilterTexts) :
    (Filters.ofTexts filters).writtenPairs = keptPairs filters := by
  rw [writtenPairs, ofTexts, keptPairs, List.flatMap_map]
  congr 1
  funext entry
  exact congrArg (List.map _) (FilterTexts.written_value entry.2)

namespace Grammar

open Address

variable {g : Grammar}

/-! ## The query -/

/-- Further pairs of a query. -/
def furtherPairs (pairs : List (String × String)) : String :=
  Text.join "" (pairs.map fun (key, value) => "&" ++ key ++ "=" ++ value)

theorem toList_furtherPairs (pairs : List (String × String)) :
    (furtherPairs pairs).toList = pairs.flatMap fun pair => '&' :: pairText pair := by
  rw [furtherPairs, Text.toList_join_empty, List.flatMap_map]
  congr 1
  funext pair
  simp [pairText]

theorem writePairs_cons (pair : String × String) (pairs : List (String × String)) :
    writePairs (pair :: pairs) = pair.1 ++ "=" ++ pair.2 ++ furtherPairs pairs := by
  have hlist : ['&'].intercalate ((pair :: pairs).map pairText) =
      pairText pair ++ pairs.flatMap fun pair => '&' :: pairText pair := by
    induction pairs generalizing pair with
    | nil => simp
    | cons next pairs ih =>
        rw [List.map_cons, List.map_cons, List.intercalate_cons_cons, ← List.map_cons, ih]
        simp
  rw [← String.toList_inj, writePairs, String.toList_ofList, hlist, String.toList_append,
    toList_furtherPairs]
  simp [pairText]

theorem filterParts_eq (filters : Filters) :
    filterParts filters = furtherPairs filters.writtenPairs := by
  rw [← String.toList_inj, filterParts, Text.toList_join_empty, toList_furtherPairs,
    Filters.writtenPairs, List.flatMap_assoc, List.flatMap_map]
  congr 1
  funext ⟨key, value⟩
  dsimp only
  rw [filterPart, Text.toList_join_empty, List.flatMap_map, List.flatMap_map]
  congr 1
  funext text
  simp [pairText]

/-- Page, order and filters, in this order. -/
def cataloguePairs (page : Int) (latest : Bool) (filters : List (String × String)) :
    List (String × String) :=
  ("page", Text.intText page) :: ((if latest then [("order", "latest")] else []) ++ filters)

theorem popularUrl_eq (g : Grammar) (page : Int) (latest : Bool) (filters : Filters) :
    g.popularUrl page latest filters = collapseSlashes (g.site ++ g.seriesPath ++ "?" ++
      writePairs (cataloguePairs page latest filters.writtenPairs)) := by
  have horder : furtherPairs ((if latest then [("order", "latest")] else []) ++
      filters.writtenPairs) =
        (if latest then "&order=latest" else "") ++ filterParts filters := by
    rw [filterParts_eq, ← String.toList_inj]
    cases latest <;> simp [toList_furtherPairs, pairText]
  have hpage : "?page=" = "?" ++ ("page" ++ "=") := by decide
  rw [popularUrl, cataloguePairs, writePairs_cons, horder, hpage]
  simp only [String.append_assoc]

theorem notMem_intText {c : Char} (hdigit : c.isDigit = false) (hminus : c ≠ '-') (n : Int) :
    c ∉ (Text.intText n).toList := by
  have hdigits (m : Nat) : c ∉ (Text.natText m).toList := by
    rw [Text.natText, String.toList_ofList]
    intro hmem
    have htrue := Nat.isDigit_of_mem_toDigits (by decide) (by decide) hmem
    rw [hdigit] at htrue
    contradiction
  cases n with
  | ofNat m => exact hdigits m
  | negSucc m => simpa [Text.intText, hminus] using hdigits (m + 1)

theorem isPlainPair_page (page : Int) : IsPlainPair ("page", Text.intText page) where
  ampersand_key := show '&' ∉ "page".toList by decide
  ampersand_value := notMem_intText (by decide) (by decide) page
  equals_key := show '=' ∉ "page".toList by decide
  escape_key := not_hasEscape_of_notMem (show '%' ∉ "page".toList by decide)
  escape_value := not_hasEscape_of_notMem (notMem_intText (by decide) (by decide) page)

theorem isPlainPair_order : IsPlainPair ("order", "latest") := by
  decide +kernel

theorem forall_isPlainPair_catalogue_iff {page : Int} {latest : Bool}
    {filters : List (String × String)} :
    (∀ pair ∈ cataloguePairs page latest filters, IsPlainPair pair) ↔
      ∀ pair ∈ filters, IsPlainPair pair := by
  have hpage := isPlainPair_page page
  have horder := isPlainPair_order
  cases latest <;> simp [cataloguePairs, hpage, horder]

/-! ## Reading the filters back -/

/-- Filters of texts can always be written. -/
theorem catalogueUrl_ofTexts (g : Grammar) (page : Int) (latest : Bool)
    (filters : OrderedMap FilterTexts) :
    g.catalogueUrl page latest (.ofTexts filters) =
      if Text.IsWritable page then .ok (g.popularUrl page latest (.ofTexts filters))
      else .error .tooManyDigits := by
  rw [catalogueUrl, Filters.isWritable_ofTexts]
  simp only [and_true]

/-- There is an address, and page, order and filters are read back from it as they were asked
for. -/
def KeepsFilters (g : Grammar) (page : Int) (latest : Bool) (filters : OrderedMap FilterTexts) :
    Prop :=
  ∃ url, g.catalogueUrl page latest (.ofTexts filters) = .ok url ∧
    queryPairs url = cataloguePairs page latest (keptPairs filters)

theorem keepsFilters_iff_popularUrl {page : Int} {latest : Bool}
    {filters : OrderedMap FilterTexts} :
    g.KeepsFilters page latest filters ↔ Text.IsWritable page ∧
      queryPairs (g.popularUrl page latest (.ofTexts filters)) =
        cataloguePairs page latest (keptPairs filters) := by
  rw [KeepsFilters, catalogueUrl_ofTexts]
  split <;> simp_all

theorem keptPairs_eq_of_catalogueUrl_eq {page : Int} {latest : Bool}
    {filters other : OrderedMap FilterTexts} (h : g.KeepsFilters page latest filters)
    (hother : g.KeepsFilters page latest other)
    (heq : g.catalogueUrl page latest (.ofTexts other) =
      g.catalogueUrl page latest (.ofTexts filters)) : keptPairs other = keptPairs filters := by
  obtain ⟨url, hurl, hread⟩ := h
  obtain ⟨otherUrl, hotherUrl, hotherRead⟩ := hother
  rw [heq, hurl] at hotherUrl
  cases hotherUrl
  rw [hread, cataloguePairs, cataloguePairs, List.cons.injEq] at hotherRead
  exact (List.append_cancel_left hotherRead.2).symm

/-- Filters are read back exactly if the page can be written, all of them are plain and their
slashes stand as they may. Such filters have an address of their own. -/
theorem keepsFilters_iff (hsite : '?' ∉ g.site.toList) (hpath : '?' ∉ g.seriesPath.toList)
    (page : Int) (latest : Bool) (filters : OrderedMap FilterTexts) :
    (g.KeepsFilters page latest filters ↔
      Text.IsWritable page ∧ (∀ pair ∈ keptPairs filters, IsPlainPair pair) ∧
        KeepsSlashes (g.site ++ g.seriesPath)
          (writePairs (cataloguePairs page latest (keptPairs filters)))) ∧
      ∀ other, g.KeepsFilters page latest filters → g.KeepsFilters page latest other →
        g.catalogueUrl page latest (.ofTexts other) =
          g.catalogueUrl page latest (.ofTexts filters) →
            keptPairs other = keptPairs filters := by
  have hlead : '?' ∉ (g.site ++ g.seriesPath).toList := by simp [hsite, hpath]
  have hpairs : cataloguePairs page latest (keptPairs filters) ≠ [] := List.cons_ne_nil _ _
  refine ⟨?_, fun other => keptPairs_eq_of_catalogueUrl_eq⟩
  rw [keepsFilters_iff_popularUrl, popularUrl_eq, Filters.writtenPairs_ofTexts,
    queryPairs_collapseSlashes_iff hlead hpairs, forall_isPlainPair_catalogue_iff]

private def openSite : Grammar where
  id := "t"
  sourceName := "T"
  site := "https://e.com/"

/-- A list that repeats its key, a filter left out and a nested address are read back. -/
theorem keepsFilters_listAndAddress :
    '?' ∉ openSite.site.toList ∧ '?' ∉ openSite.seriesPath.toList ∧
      openSite.KeepsFilters 2 true { entries := [("genre[]", .many ["action", "", "drama"]),
        ("type", .one ""), ("from", .one "https://e.org/?a=é")] } := by
  refine ⟨by decide, by decide, (keepsFilters_iff (by decide) (by decide) _ _ _).1.2 ?_⟩
  decide +kernel

/-- An ampersand within a text begins a filter that was not asked for. -/
theorem not_keepsFilters_ampersand :
    '?' ∉ openSite.site.toList ∧ '?' ∉ openSite.seriesPath.toList ∧
      ¬openSite.KeepsFilters 1 false { entries := [("a", .one "1&b=2")] } ∧
      openSite.catalogueUrl 1 false (.ofTexts { entries := [("a", .one "1&b=2")] }) =
        openSite.catalogueUrl 1 false
          (.ofTexts { entries := [("a", .one "1"), ("b", .one "2")] }) := by
  rw [keepsFilters_iff_popularUrl]
  decide +kernel

end Grammar

end Feuilleton
