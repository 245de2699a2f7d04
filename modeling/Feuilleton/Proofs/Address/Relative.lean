import Feuilleton.Address.Relative
import Feuilleton.Proofs.Address.QueryPairs

/-!
# Links to other hosts

An absolute address should be left with its path, whatever host it leads to. It is exactly if a
slash stands behind its host and the address of the site, if it occurs in it at all, stands at its
very start.
-/

namespace Feuilleton

theorem Text.cutList?_of_head_notMem {c : Char} {before : List Char} (h : c ∉ before)
    (pattern after : List Char) :
    cutList? (c :: pattern) (before ++ c :: pattern ++ after) = some (before, after) := by
  induction before with
  | nil => exact cutList?_self_append (c :: pattern) after
  | cons d before ih =>
      rw [List.mem_cons, not_or] at h
      rw [List.cons_append, List.cons_append, cutList?, ih h.2]
      simp [h.1]

namespace Address

/-! ## Absolute addresses -/

/-- A letter, and then letters, digits and a few signs. -/
def isScheme (text : String) : Bool :=
  text.toList.head?.any Char.isAlpha &&
    text.toList.all fun c => c.isAlphanum || c == '+' || c == '-' || c == '.'

def isHost (text : String) : Bool :=
  !text.isEmpty && text.toList.all fun c => c != '/' && c != '?' && c != '#'

def BeginsWithScheme (text : String) : Prop :=
  ∃ scheme rest, isScheme scheme = true ∧ text = scheme ++ "://" ++ rest

/-- Where a site stands. -/
structure Origin where
  scheme : String
  host : String
  isScheme_scheme : isScheme scheme = true
  isHost_host : isHost host = true

def Origin.lead (origin : Origin) : String :=
  origin.scheme ++ "://" ++ origin.host

/-- The address of a site, to which paths are added. -/
def Origin.base (origin : Origin) : String :=
  origin.lead ++ "/"

/-- An address with a host and, behind a slash, a path that is relative; or without a slash. -/
structure AbsoluteUrl extends Origin where
  path? : Option String
  path_relative : ∀ path ∈ path?, ¬BeginsWithScheme path

namespace AbsoluteUrl

def path (url : AbsoluteUrl) : String :=
  url.path?.getD ""

def text (url : AbsoluteUrl) : String :=
  match url.path? with
  | some path => url.base ++ path
  | none => url.lead

end AbsoluteUrl

/-- Of an absolute address only the path is left, so that it leads to the site. -/
structure KeepsPath (site : Origin) (url : AbsoluteUrl) : Prop where
  relative : ¬BeginsWithScheme (relativePath url.text site.base)
  behind_site : ∀ path, url.text = site.base ++ path → relativePath url.text site.base = path
  path : relativePath url.text site.base = url.path

/-! ## Pieces between slashes -/

variable {text scheme host path before after : String} {origin site : Origin} {url : AbsoluteUrl}

theorem slash_notMem_scheme (h : isScheme scheme = true) : '/' ∉ scheme.toList := by
  rw [isScheme, Bool.and_eq_true, List.all_eq_true] at h
  intro hmem
  exact absurd (h.2 _ hmem) (by decide)

theorem colon_notMem_scheme (h : isScheme scheme = true) : ':' ∉ scheme.toList := by
  rw [isScheme, Bool.and_eq_true, List.all_eq_true] at h
  intro hmem
  exact absurd (h.2 _ hmem) (by decide)

theorem slash_notMem_host (h : isHost host = true) : '/' ∉ host.toList := by
  rw [isHost, Bool.and_eq_true, List.all_eq_true] at h
  intro hmem
  exact absurd (h.2 _ hmem) (by decide)

theorem beginsWithScheme_iff : BeginsWithScheme text ↔
    (Text.cut? "://" text).any (fun parts => isScheme parts.1) = true := by
  rw [Option.any_eq_true]
  constructor
  · rintro ⟨scheme, rest, hscheme, rfl⟩
    refine ⟨(scheme, rest), ?_, hscheme⟩
    have hcut := Text.cutList?_of_head_notMem (colon_notMem_scheme hscheme) ['/', '/'] rest.toList
    rw [Text.cut?, String.toList_append, String.toList_append]
    exact (congrArg _ hcut).trans (by simp)
  · rintro ⟨⟨scheme, rest⟩, hcut, hscheme⟩
    exact ⟨scheme, rest, hscheme, Text.append_of_cut? hcut⟩

instance (text : String) : Decidable (BeginsWithScheme text) :=
  decidable_of_iff _ beginsWithScheme_iff.symm

/-- The three pieces before the third slash. -/
def Origin.pieces (origin : Origin) : List (List Char) :=
  [origin.scheme.toList ++ [':'], [], origin.host.toList]

theorem Origin.splitOn_lead (origin : Origin) :
    origin.lead.toList.splitOn '/' = origin.pieces := by
  have hscheme : '/' ∉ origin.scheme.toList ++ [':'] := by
    simp [slash_notMem_scheme origin.isScheme_scheme]
  have hlead : origin.lead.toList =
      (origin.scheme.toList ++ [':']) ++ '/' :: ([] ++ '/' :: origin.host.toList) := by
    simp [lead]
  rw [hlead, List.splitOn_append_cons_self_of_not_mem hscheme,
    List.splitOn_append_cons_self_of_not_mem List.not_mem_nil,
    List.splitOn_eq_singleton (slash_notMem_host origin.isHost_host), pieces]

theorem Origin.toList_base (origin : Origin) :
    origin.base.toList = origin.lead.toList ++ ['/'] := by
  simp [base]

theorem Origin.splitOn_base_append (origin : Origin) (cs : List Char) :
    (origin.base.toList ++ cs).splitOn '/' = origin.pieces ++ cs.splitOn '/' := by
  rw [toList_base, List.append_assoc, List.singleton_append, List.splitOn_append_cons_self,
    splitOn_lead]

/-- Pieces that stand before others and just as well behind them are moved by three at a time, so
that an empty one never meets one that is not empty. -/
theorem pieces_eq_of_append_comm {scheme empty host scheme' host' : List Char}
    (hscheme : scheme ≠ empty) (hscheme' : scheme' ≠ empty) :
    ∀ {pieces : List (List Char)},
      [scheme, empty, host] ++ pieces = pieces ++ [scheme', empty, host'] →
        scheme = scheme' ∧ host = host'
  | [], h => by simpa using h
  | [first], h => by
      simp only [List.cons_append, List.nil_append, List.cons.injEq] at h
      exact absurd h.2.1.symm hscheme'
  | [first, second], h => by
      simp only [List.cons_append, List.nil_append, List.cons.injEq] at h
      obtain ⟨hfirst, hsecond, hthird, hfourth, -⟩ := h
      exact absurd (hfirst.trans hfourth) hscheme
  | first :: second :: third :: pieces, h => by
      simp only [List.cons_append, List.nil_append, List.cons.injEq] at h
      obtain ⟨rfl, rfl, rfl, h⟩ := h
      exact pieces_eq_of_append_comm hscheme hscheme' h

/-- The addresses of two sites only stand around the same text if they are the same. -/
theorem base_eq_of_append_comm (h : origin.base ++ before = before ++ site.base) :
    origin.base = site.base := by
  rw [← String.toList_inj, String.toList_append, String.toList_append] at h
  rcases List.eq_nil_or_concat' before.toList with hnil | ⟨front, last, hconcat⟩
  · rwa [hnil, List.append_nil, List.nil_append, String.toList_inj] at h
  · rw [hconcat, site.toList_base, ← List.append_assoc, ← List.append_assoc] at h
    obtain ⟨hfront, hlast⟩ := List.append_inj' h rfl
    obtain rfl : last = '/' := by simpa using hlast
    have hpieces := congrArg (List.splitOn '/') hfront
    rw [origin.splitOn_base_append, List.append_assoc, List.singleton_append,
      List.splitOn_append_cons_self, site.splitOn_lead] at hpieces
    obtain ⟨hscheme, hhost⟩ := pieces_eq_of_append_comm (by simp) (by simp) hpieces
    rw [List.append_cancel_right_eq, String.toList_inj] at hscheme
    rw [String.toList_inj] at hhost
    rw [Origin.base, Origin.base, Origin.lead, Origin.lead, hscheme, hhost]

/-! ## Relative paths -/

theorem relativePath_base_append (site : Origin) (path : String) :
    relativePath (site.base ++ path) site.base = path := by
  have hcut : Text.cut? site.base (site.base ++ path) = some ("", path) := by
    rw [Text.cut?, String.toList_append, Text.cutList?_self_append]
    simp
  have hoccurs : Text.occursIn site.base (site.base ++ path) = true := by
    rw [← Text.isSome_cut?, hcut]
    rfl
  have hne : site.base ≠ "" := by simp [Origin.base]
  rw [relativePath, hoccurs, Text.eraseFirst, hcut]
  simp [hne]

theorem afterThirdSlash?_base_append (origin : Origin) (path : String) :
    afterThirdSlash? (origin.base ++ path) = some path := by
  obtain ⟨part, parts, hsplit⟩ :=
    List.exists_cons_of_ne_nil (List.splitOn_ne_nil '/' path.toList)
  have hjoined : ['/'].intercalate (part :: parts) = path.toList := by
    rw [← hsplit, List.intercalate_splitOn]
  rw [afterThirdSlash?, Text.splitList_eq_splitOn, String.toList_append,
    origin.splitOn_base_append, hsplit]
  simp only [Origin.pieces, List.cons_append, List.nil_append, hjoined, String.ofList_toList]

theorem relativePath_of_not_occursIn (h : Text.occursIn site.base (origin.base ++ path) = false) :
    relativePath (origin.base ++ path) site.base = path := by
  have hscheme : Text.occursIn "://" (origin.base ++ path) = true := by
    rw [Text.occursIn, Text.occursInList_iff]
    exact ⟨origin.scheme.toList, origin.host.toList ++ '/' :: path.toList,
      by simp [Origin.base, Origin.lead]⟩
  rw [relativePath, h, Bool.and_false, if_neg Bool.false_ne_true, if_pos hscheme,
    afterThirdSlash?_base_append, Option.getD_some]

theorem relativePath_lead (h : Text.occursIn site.base origin.lead = false) :
    relativePath origin.lead site.base = origin.lead := by
  have hpieces : afterThirdSlash? origin.lead = none := by
    rw [afterThirdSlash?, Text.splitList_eq_splitOn, origin.splitOn_lead, Origin.pieces]
  rw [relativePath, h, hpieces]
  simp

theorem exists_append_of_occursIn (h : Text.occursIn site.base text = true) :
    ∃ before after, text = before ++ site.base ++ after ∧
      relativePath text site.base = before ++ after := by
  have hne : site.base ≠ "" := by simp [Origin.base]
  rw [← Text.isSome_cut?] at h
  obtain ⟨⟨before, after⟩, hcut⟩ := Option.isSome_iff_exists.1 h
  refine ⟨before, after, Text.append_of_cut? hcut, ?_⟩
  rw [relativePath, ← Text.isSome_cut?, Text.eraseFirst, hcut]
  simp [hne]

/-- The first three pieces of an address without a path are all it has. -/
theorem ne_lead_of_base_append (path : String) : site.base ++ path ≠ origin.lead := by
  intro heq
  have hpieces := congrArg (fun s => (s.toList.splitOn '/').length) heq
  simp only [String.toList_append, site.splitOn_base_append, origin.splitOn_lead,
    List.length_append, Origin.pieces, List.length_cons, List.length_nil] at hpieces
  have hne := List.length_pos_iff.2 (List.splitOn_ne_nil '/' path.toList)
  omega

theorem lead_ne_empty (origin : Origin) : origin.lead ≠ "" := by
  simp [Origin.lead]

theorem KeepsPath.path?_ne_none (h : KeepsPath site url) : url.path? ≠ none := by
  intro hnone
  have hpath := h.path
  rw [AbsoluteUrl.text, AbsoluteUrl.path, hnone, Option.getD_none] at hpath
  cases hoccurs : Text.occursIn site.base url.lead with
  | false => exact lead_ne_empty url.toOrigin ((relativePath_lead hoccurs).symm.trans hpath)
  | true =>
      obtain ⟨before, after, hlead, hrelative⟩ := exists_append_of_occursIn hoccurs
      rw [hrelative, String.append_eq_empty_iff] at hpath
      rw [hpath.1, hpath.2] at hlead
      exact ne_lead_of_base_append "" (by simpa using hlead.symm)

theorem eq_of_base_append_eq {other : String} (h : origin.base ++ path = site.base ++ other) :
    path = other := by
  have hpieces := congrArg (fun s => s.toList.splitOn '/') h
  simp only [String.toList_append, Origin.splitOn_base_append] at hpieces
  obtain ⟨-, hpieces⟩ := List.append_inj hpieces rfl
  have hjoined := congrArg (['/'].intercalate ·) hpieces
  simpa only [List.intercalate_splitOn, String.toList_inj] using hjoined

/-- A link is left with its path exactly if it has one and the address of the site, if it occurs
in it at all, is where it leads. -/
theorem keepsPath_iff (site : Origin) (url : AbsoluteUrl) : KeepsPath site url ↔
    url.path? ≠ none ∧
      (Text.occursIn site.base url.text = true → ∃ path, url.text = site.base ++ path) := by
  constructor
  · intro h
    refine ⟨h.path?_ne_none, fun hoccurs => ?_⟩
    obtain ⟨path, hpath⟩ := Option.ne_none_iff_exists'.1 h.path?_ne_none
    obtain ⟨before, after, htext, hrelative⟩ := exists_append_of_occursIn hoccurs
    have hkept : before ++ after = path := by
      rw [← hrelative, h.path, AbsoluteUrl.path, hpath, Option.getD_some]
    rw [AbsoluteUrl.text, hpath] at htext ⊢
    dsimp only at htext ⊢
    have haround : url.base ++ before = before ++ site.base := by
      rwa [← hkept, ← String.append_assoc, String.append_left_inj] at htext
    exact ⟨path, by rw [base_eq_of_append_comm haround]⟩
  · rintro ⟨hsome, hoccurs⟩
    obtain ⟨path, hpath⟩ := Option.ne_none_iff_exists'.1 hsome
    have htext : url.text = url.base ++ path := by rw [AbsoluteUrl.text, hpath]
    have hrelative : relativePath url.text site.base = path := by
      cases hwithin : Text.occursIn site.base url.text with
      | false =>
          rw [htext] at hwithin ⊢
          exact relativePath_of_not_occursIn hwithin
      | true =>
          obtain ⟨other, hother⟩ := hoccurs hwithin
          rw [hother, relativePath_base_append]
          exact (eq_of_base_append_eq (htext.symm.trans hother)).symm
    refine ⟨?_, ?_, ?_⟩
    · rw [hrelative]
      exact url.path_relative path hpath
    · intro other hother
      rw [hother, relativePath_base_append]
    · rw [hrelative, AbsoluteUrl.path, hpath, Option.getD_some]

private def plainOrigin : Origin where
  scheme := "https"
  host := "e.com"
  isScheme_scheme := by decide
  isHost_host := by decide

/-- A link to another host that hands the reader on to the site. -/
private def redirector : AbsoluteUrl where
  scheme := "https"
  host := "m.com"
  isScheme_scheme := by decide
  isHost_host := by decide
  path? := some "go/https://e.com/x"
  path_relative := by decide +kernel

/-- The address of the site is cut out of the middle of a link, which stays absolute. -/
theorem not_keepsPath_redirector :
    relativePath redirector.text plainOrigin.base = "https://m.com/go/x" ∧
      ¬KeepsPath plainOrigin redirector := by
  have hrelative : relativePath redirector.text plainOrigin.base = "https://m.com/go/x" := by
    decide +kernel
  refine ⟨hrelative, fun h => h.relative ?_⟩
  rw [hrelative]
  decide +kernel

end Address

end Feuilleton
