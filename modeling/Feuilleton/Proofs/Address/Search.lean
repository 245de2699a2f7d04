import Feuilleton.Address.Catalogue
import Feuilleton.Proofs.Address.Percent
import Feuilleton.Proofs.Address.Slashes
import Feuilleton.Proofs.Template.Plain

/-!
# Addresses of search results

Where a site has no address of its own for them, the address of search results ends in the
percent-encoded term. Nothing in a term is taken for a part of the address or of a template, so
that the term can be read back from the address, also where slashes have been collapsed.
-/

namespace Feuilleton.Grammar

open Address

variable {g : Grammar} {lead lead' : List Char}

/-! ## The default address -/

theorem segments_defaultSearchPath : Template.segments defaultSearchPath.toList =
    "page/".toList.map .literal ++ [.field { name := "page".toList }] ++
      "/?s=".toList.map .literal ++ [.field { name := "term".toList }] := by
  decide +kernel

/-- The page is the only part of the address that cannot always be written. -/
theorem render_defaultSearchPath (page : Int) (term : String) :
    Template.render [("page", .whole page), ("term", .text term)] defaultSearchPath =
      if Text.IsWritable page then .ok ("page/" ++ Text.intText page ++ "/?s=" ++ term)
      else .error .tooManyDigits := by
  have hpage : Template.Names [("page", .whole page), ("term", .text term)] "page".toList
      (.whole page) := ⟨by decide +kernel, by decide, by decide, rfl⟩
  have hterm : Template.Names [("page", .whole page), ("term", .text term)] "term".toList
      (.text term) := ⟨by decide +kernel, by decide, by decide, rfl⟩
  split
  · rename_i hwritable
    apply Template.render_of_fills
    rw [segments_defaultSearchPath]
    simp only [String.toList_append]
    refine .append (.append (.append ?_ ?_) ?_) ?_
    · exact Template.fills_literals _ _ _
    · exact Template.fills_field hpage (if_pos hwritable)
    · exact Template.fills_literals _ _ _
    · exact Template.fills_field hterm rfl
  · rename_i hwritable
    have hsegments := segments_defaultSearchPath
    rw [List.append_assoc, List.append_assoc, List.singleton_append] at hsegments
    exact Template.render_of_names_error hsegments (Template.fills_literals _ _ _) hpage
      (if_neg hwritable)

/-- What stands before the term. -/
def searchLead (g : Grammar) (page : Int) : String :=
  g.site ++ "page/" ++ Text.intText page ++ "/?s="

theorem searchUrl_eq (hpath : g.searchPath = defaultSearchPath) (term : String) (page : Int) :
    g.searchUrl term page =
      if Text.IsWritable page then .ok (g.searchLead page ++ percentEncode term)
      else .error .tooManyDigits := by
  rw [searchUrl, hpath, render_defaultSearchPath, searchLead]
  split <;> simp only [bind, Except.bind, String.append_assoc]

/-! ## Reading the term back -/

/-- A part without the sign that stands before it is determined by the whole. -/
theorem eq_of_append_cons_eq {c : Char} {cs cs' : List Char} (h : c ∉ cs) (h' : c ∉ cs')
    (heq : lead ++ c :: cs = lead' ++ c :: cs') : cs = cs' := by
  have hcs : c :: cs <:+ lead ++ c :: cs := List.suffix_append lead _
  have hcs' : c :: cs' <:+ lead ++ c :: cs := heq ▸ List.suffix_append lead' _
  rcases List.suffix_or_suffix_of_suffix hcs hcs' with hpart | hpart
  · rcases List.suffix_cons_iff.1 hpart with hsame | hbehind
    · exact (List.cons.inj hsame).2
    · exact absurd (hbehind.subset List.mem_cons_self) h'
  · rcases List.suffix_cons_iff.1 hpart with hsame | hbehind
    · exact (List.cons.inj hsame).2.symm
    · exact absurd (hbehind.subset List.mem_cons_self) h

theorem toList_searchLead_append (g : Grammar) (page : Int) (s : String) :
    ∃ lead, (g.searchLead page ++ s).toList = lead ++ '=' :: s.toList := by
  refine ⟨(g.site ++ "page/" ++ Text.intText page ++ "/?s").toList, ?_⟩
  simp [searchLead]

theorem eq_of_searchUrl_eq (hpath : g.searchPath = defaultSearchPath) {term other : String}
    {page otherPage : Int} (hwritable : Text.IsWritable page)
    (h : g.searchUrl other otherPage = g.searchUrl term page) : other = term := by
  rw [searchUrl_eq hpath, searchUrl_eq hpath, if_pos hwritable] at h
  split at h
  case isFalse => cases h
  obtain ⟨lead, hlead⟩ := g.toList_searchLead_append page (percentEncode term)
  obtain ⟨lead', hlead'⟩ := g.toList_searchLead_append otherPage (percentEncode other)
  have hlists := congrArg String.toList (Except.ok.inj h)
  rw [hlead, hlead'] at hlists
  have hterm := notMem_of_isEscaped (isEscaped_percentEncode term) (show IsSign '=' by decide)
  have hother := notMem_of_isEscaped (isEscaped_percentEncode other) (show IsSign '=' by decide)
  have hsame := String.toList_inj.1 (eq_of_append_cons_eq hother hterm hlists)
  rw [← percentDecode_percentEncode other, hsame, percentDecode_percentEncode]

/-- The term is written as `escaped` behind the lead. It can be read back, stays as it is where
slashes are collapsed, and has an address of its own. -/
structure WritesTerm (g : Grammar) (term : String) (page : Int) (escaped : String) : Prop where
  address : g.searchUrl term page = .ok (g.searchLead page ++ escaped)
  isEscaped : IsEscaped escaped.toList
  decoded : percentDecode escaped = term
  collapsed : collapseSlashes (g.searchLead page ++ escaped) =
    collapseSlashes (g.searchLead page) ++ escaped
  alone : ∀ other otherPage, g.searchUrl other otherPage = g.searchUrl term page → other = term

/-- The default address of search results keeps every term, on every page with a number that can
be written. -/
theorem exists_writesTerm (hpath : g.searchPath = defaultSearchPath) (term : String)
    (page : Int) :
    (Text.IsWritable page → ∃ escaped, g.WritesTerm term page escaped) ∧
      (¬Text.IsWritable page → g.searchUrl term page = .error .tooManyDigits) := by
  have hescaped := isEscaped_percentEncode term
  have hslash := notMem_of_isEscaped hescaped (show IsSign '/' by decide)
  refine ⟨fun hwritable => ⟨percentEncode term, ?_, hescaped, percentDecode_percentEncode term,
    collapseSlashes_append hslash _, fun _ _ => eq_of_searchUrl_eq hpath hwritable⟩, ?_⟩
  · rw [searchUrl_eq hpath, if_pos hwritable]
  · intro hwritable
    rw [searchUrl_eq hpath, if_neg hwritable]

private def plainSite : Grammar where
  id := "t"
  sourceName := "T"
  site := "https://e.com/"

/-- A field, a scheme, an escape and a letter beyond ASCII, all of them parts of the term; and a
page with one digit too many. -/
theorem exists_writesTerm_fieldInTerm :
    plainSite.searchPath = defaultSearchPath ∧ Text.IsWritable 3 ∧
      plainSite.searchUrl "\x7bpage\x7d://%2Fé" 3 =
        .ok "https://e.com/page/3/?s=%7Bpage%7D%3A%2F%2F%252F%C3%A9" ∧
      (∃ escaped, plainSite.WritesTerm "\x7bpage\x7d://%2Fé" 3 escaped) ∧
      plainSite.searchUrl "é" (.ofNat (Nat.pow 10 Text.maxDigits)) = .error .tooManyDigits :=
  ⟨rfl, by decide, by decide +kernel, (exists_writesTerm rfl _ _).1 (by decide),
    (exists_writesTerm rfl _ _).2 (by decide +kernel)⟩

end Feuilleton.Grammar
