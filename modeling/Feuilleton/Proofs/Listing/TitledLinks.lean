import Mathlib.Data.List.Forall2
import Feuilleton.Listing.Page
import Feuilleton.Proofs.Text.Ink

/-!
# Entries of titled links

Every article that links to a titled work should become an entry of the listing. It does exactly
if no link whose title or address is blank stands before the titled one: such a link is picked
first and then given up, together with its article.
-/

namespace Feuilleton

/-- What is picked from a list matches its listed members exactly if none of them is passed over. -/
theorem forall₂_filter_filterMap_iff {α β : Type} {listed : α → Bool} {pick? : α → Option β}
    {fits : α → β → Prop} (h : ∀ a b, pick? a = some b → listed a = true ∧ fits a b)
    (members : List α) :
    List.Forall₂ fits (members.filter listed) (members.filterMap pick?) ↔
      ∀ a ∈ members, listed a = true → (pick? a).isSome = true := by
  have hlength (members : List α) :
      (members.filterMap pick?).length ≤ (members.filter listed).length := by
    rw [List.length_filterMap_eq_countP, ← List.countP_eq_length_filter]
    apply List.countP_mono_left
    intro a _ hpicked
    obtain ⟨b, hb⟩ := Option.isSome_iff_exists.1 hpicked
    exact (h a b hb).1
  induction members with
  | nil => simp
  | cons a members ih =>
      rw [List.forall_mem_cons]
      cases hpick : pick? a with
      | some b =>
          obtain ⟨hlisted, hfits⟩ := h a b hpick
          rw [List.filter_cons_of_pos hlisted, List.filterMap_cons_some hpick, List.forall₂_cons]
          simp only [hfits, true_and, Option.isSome_some, implies_true]
          exact ih
      | none =>
          rw [List.filterMap_cons_none hpick]
          cases hlisted : listed a with
          | false =>
              rw [List.filter_cons_of_neg (by simp [hlisted])]
              simp only [Bool.false_eq_true, false_imp_iff, true_and]
              exact ih
          | true =>
              rw [List.filter_cons_of_pos hlisted]
              refine iff_of_false (fun hall => ?_) (by simp)
              have heq := hall.length_eq
              have hle := hlength members
              rw [List.length_cons] at heq
              omega

namespace ListedWork

open Document

variable {site : String} {article link : Node} {nodes : List Node} {entry : ListedWork}

/-! ## What a listing should hold -/

/-- A link with a title and an address, neither of them blank. -/
def isTitled (node : Node) : Bool :=
  node.isNamed "a" && (node.attribute? "title").any (!Text.isBlankText ·) &&
    (node.attribute? "href").any (!Text.isBlankText ·)

def linksToTitled (article : Node) : Bool :=
  article.descendants.any isTitled

/-- The first of the two sources of an image that is not empty. -/
def imageSource (image : Node) : String :=
  ((["data-src", "src"].filterMap image.attribute?).find? (!·.isEmpty)).getD defaultCover

/-- The first titled link of an article gives name and path, its first image the cover. -/
structure IsEntry (site : String) (article : Node) (entry : ListedWork) : Prop where
  exists_link : ∃ link title address, article.descendants.find? isTitled = some link ∧
    link.attribute? "title" = some title ∧ link.attribute? "href" = some address ∧
    entry.name = Text.trim title ∧
    entry.path = Address.relativePath (Text.trim address) site
  cover_eq : entry.cover =
    ((article.descendants.find? (·.isNamed "img")).map imageSource).getD defaultCover

def articles (nodes : List Node) : List Node :=
  (preorder nodes).filter (·.isNamed "article")

/-- There is one entry for each article that links to a titled work, in their order. -/
def ListsTitled (site : String) (nodes : List Node) : Prop :=
  List.Forall₂ (IsEntry site) ((articles nodes).filter linksToTitled) (ofDocument site nodes)

/-! ## Entries -/

theorem filled?_eq (key : String) (image : Node) :
    filled? key image = ([key].filterMap image.attribute?).find? (!·.isEmpty) := by
  cases hsource : image.attribute? key with
  | none => simp [filled?, hsource]
  | some source =>
      simp only [filled?, hsource, List.filterMap_cons, List.filterMap_nil, List.find?_singleton,
        Option.filter_some]

theorem coverOf_eq (article : Node) : coverOf article =
    ((article.descendants.find? (·.isNamed "img")).map imageSource).getD defaultCover := by
  rw [coverOf]
  cases article.descendants.find? (·.isNamed "img") with
  | none => rfl
  | some image =>
      have hsources : ["data-src", "src"].filterMap image.attribute? =
          ["data-src"].filterMap image.attribute? ++ ["src"].filterMap image.attribute? :=
        List.filterMap_append (l := ["data-src"])
      dsimp only
      rw [filled?_eq, filled?_eq, ← List.find?_append, ← hsources]
      rfl

theorem isEmpty_trim_eq (s : String) : (Text.trim s).isEmpty = Text.isBlankText s := by
  rw [Bool.eq_iff_iff, String.isEmpty_iff, Text.trim_eq_empty_iff, Text.ink_eq_nil_iff]

theorem isTitled_iff : isTitled link = true ↔ link.isNamed "a" = true ∧
    ∃ title address, link.attribute? "title" = some title ∧ link.attribute? "href" = some address ∧
      Text.isBlankText title = false ∧ Text.isBlankText address = false := by
  simp only [isTitled, Bool.and_eq_true, Option.any_eq_true, Bool.not_eq_true']
  constructor
  · rintro ⟨⟨hname, title, htitle, hshown⟩, address, haddress, hleads⟩
    exact ⟨hname, title, address, htitle, haddress, hshown, hleads⟩
  · rintro ⟨hname, title, address, htitle, haddress, hshown, hleads⟩
    exact ⟨⟨hname, title, htitle, hshown⟩, address, haddress, hleads⟩

/-- A titled link that is picked is the first titled one. -/
theorem find?_isTitled_of_titledLink? (h : titledLink? article = some link)
    (htitled : isTitled link = true) : article.descendants.find? isTitled = some link := by
  obtain ⟨-, before, after, hsplit, hbefore⟩ := List.find?_eq_some_iff_append.1 h
  rw [List.find?_eq_some_iff_append]
  refine ⟨htitled, before, after, hsplit, fun node hnode => ?_⟩
  have hother := hbefore node hnode
  rw [Bool.not_eq_true'] at hother ⊢
  by_contra hfound
  rw [Bool.not_eq_false, isTitled_iff] at hfound
  obtain ⟨hname, title, address, htitle, haddress, -⟩ := hfound
  simp [hname, htitle, haddress] at hother

theorem isSome_titledLink? (h : linksToTitled article = true) :
    (titledLink? article).isSome = true := by
  obtain ⟨node, hnode, htitled⟩ := List.any_eq_true.1 h
  obtain ⟨hname, title, address, htitle, haddress, -⟩ := isTitled_iff.1 htitled
  exact List.find?_isSome.2 ⟨node, hnode, by simp [hname, htitle, haddress]⟩

/-- The link that is picked decides whether there is an entry. -/
theorem ofArticle?_eq (site : String) (h : titledLink? article = some link) : ∃ title address,
    link.attribute? "title" = some title ∧ link.attribute? "href" = some address ∧
      ofArticle? site article = if isTitled link then
        some { name := Text.trim title, path := Address.relativePath (Text.trim address) site,
               cover := coverOf article }
      else none := by
  have hpicked := List.find?_some h
  simp only [Bool.and_eq_true] at hpicked
  obtain ⟨⟨hname, haddress⟩, htitle⟩ := hpicked
  obtain ⟨title, htitle⟩ := Option.isSome_iff_exists.1 htitle
  obtain ⟨address, haddress⟩ := Option.isSome_iff_exists.1 haddress
  have htitled : isTitled link = !(Text.isBlankText title || Text.isBlankText address) := by
    simp [isTitled, hname, htitle, haddress]
  refine ⟨title, address, htitle, haddress, ?_⟩
  rw [ofArticle?, h, Option.bind_some, htitle, haddress, htitled, Option.getD_some,
    Option.getD_some]
  dsimp only
  rw [isEmpty_trim_eq, isEmpty_trim_eq]
  cases Text.isBlankText title || Text.isBlankText address <;> rfl

theorem exists_of_ofArticle? (h : ofArticle? site article = some entry) :
    ∃ link, titledLink? article = some link ∧ isTitled link = true := by
  obtain ⟨link, hlink, -⟩ := Option.bind_eq_some_iff.1 h
  obtain ⟨title, address, -, -, heq⟩ := ofArticle?_eq site hlink
  refine ⟨link, hlink, ?_⟩
  by_contra huntitled
  rw [h, if_neg huntitled] at heq
  contradiction

theorem isEntry_of_ofArticle? (h : ofArticle? site article = some entry) :
    linksToTitled article = true ∧ IsEntry site article entry := by
  obtain ⟨link, hlink, htitled⟩ := exists_of_ofArticle? h
  have hfirst := find?_isTitled_of_titledLink? hlink htitled
  obtain ⟨title, address, htitle, haddress, heq⟩ := ofArticle?_eq site hlink
  rw [h, if_pos htitled, Option.some.injEq] at heq
  subst heq
  refine ⟨?_, ⟨link, title, address, hfirst, htitle, haddress, rfl, rfl⟩, coverOf_eq article⟩
  exact List.any_eq_true.2 ⟨link, List.mem_of_find?_eq_some hfirst, htitled⟩

/-- Every article that links to a titled work has its entry exactly if the first link with a title
and an address, be they blank or not, is a titled one wherever there is one. -/
theorem listsTitled_iff (site : String) (nodes : List Node) : ListsTitled site nodes ↔
    ∀ article ∈ articles nodes, linksToTitled article = true →
      ∀ link, titledLink? article = some link → isTitled link = true := by
  rw [ListsTitled, ofDocument]
  refine (forall₂_filter_filterMap_iff (fun _ _ => isEntry_of_ofArticle?) _).trans ?_
  refine forall₂_congr fun article _ => imp_congr_right fun hlinks => ?_
  constructor
  · intro hsome link hlink
    obtain ⟨entry, hentry⟩ := Option.isSome_iff_exists.1 hsome
    obtain ⟨picked, hpicked, htitled⟩ := exists_of_ofArticle? hentry
    rw [hlink, Option.some.injEq] at hpicked
    exact hpicked ▸ htitled
  · intro hall
    obtain ⟨link, hlink⟩ := Option.isSome_iff_exists.1 (isSome_titledLink? hlinks)
    obtain ⟨title, address, -, -, heq⟩ := ofArticle?_eq site hlink
    rw [heq, if_pos (hall link hlink)]
    rfl

/-- An article whose picture links to the work as well, under an empty title. -/
private def pictured : Node :=
  .element "article" ∅ [
    .element "a" { entries := [("href", "https://e.com/w/"), ("title", "")] }
      [.element "img" { entries := [("src", "https://e.com/c.jpg")] } []],
    .element "a" { entries := [("href", "https://e.com/w/"), ("title", "W")] } [.text "W"]]

/-- The titled link of an article is not found behind an untitled one. -/
theorem not_listsTitled_pictured :
    linksToTitled pictured = true ∧ ofDocument "https://e.com/" [pictured] = [] ∧
      ¬ListsTitled "https://e.com/" [pictured] := by
  have hlinks : (articles [pictured]).filter linksToTitled ≠ [] := by decide +kernel
  have hnone : ofDocument "https://e.com/" [pictured] = [] := by decide +kernel
  refine ⟨by decide +kernel, hnone, fun h => hlinks ?_⟩
  rw [ListsTitled, hnone] at h
  exact List.forall₂_nil_right_iff.1 h

end ListedWork

end Feuilleton
