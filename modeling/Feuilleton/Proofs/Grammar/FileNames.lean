import Feuilleton.Grammar.Store

/-!
# Names of files

The file of a site has the characters of its id, those that file systems might not take replaced,
and an extension. So ids share a file exactly if they differ in replaced characters only, and the
stem of a file gives its id back where nothing was replaced.
-/

namespace Feuilleton.GrammarStore

variable {a b id name : String} {c : Char}

/-! ## Characters -/

def fileChar (c : Char) : Char :=
  if isFileChar c then c else '_'

theorem isFileChar_fileChar (c : Char) : isFileChar (fileChar c) = true := by
  unfold fileChar
  split
  · assumption
  · decide

theorem fileChar_eq_self (h : isFileChar c = true) : fileChar c = c := by
  unfold fileChar
  rw [if_pos h]

theorem eq_fileChar_of_ne (h : fileChar c ≠ '_') : c = fileChar c := by
  unfold fileChar at h ⊢
  split
  · rfl
  · next hreplaced => exact absurd (if_neg hreplaced) h

theorem map_fileChar_eq_self {cs : List Char} (h : ∀ c ∈ cs, isFileChar c = true) :
    cs.map fileChar = cs := by
  have hself : cs.map fileChar = cs.map id :=
    List.map_congr_left fun c hc => fileChar_eq_self (h c hc)
  rw [hself, List.map_id]

/-! ## Names -/

theorem toList_fileName (id : String) :
    (fileName id).toList = id.toList.map fileChar ++ extension.toList := by
  rw [fileName, String.toList_append, String.toList_ofList]
  rfl

theorem isFileChar_extension : ∀ c ∈ extension.toList, isFileChar c = true :=
  List.all_eq_true.1 (by decide)

theorem isFileChar_of_mem_fileName (h : c ∈ (fileName id).toList) : isFileChar c = true := by
  rw [toList_fileName, List.mem_append] at h
  rcases h with hc | hc
  · obtain ⟨d, -, rfl⟩ := List.mem_map.1 hc
    exact isFileChar_fileChar d
  · exact isFileChar_extension c hc

theorem fileName_ne_extension (h : id ≠ "") : fileName id ≠ extension := by
  intro hname
  rw [← String.toList_inj, toList_fileName] at hname
  have hempty : id.toList = [] := by simpa using hname
  exact h (String.toList_eq_nil_iff.1 hempty)

theorem fileName_eq_iff : fileName a = fileName b ↔
    a.toList.map fileChar = b.toList.map fileChar := by
  rw [← String.toList_inj, toList_fileName, toList_fileName, List.append_left_inj]

/-- An id without underscores and replaced characters has a file of its own. -/
theorem eq_of_fileName_eq (h : fileName a = fileName b)
    (hown : ∀ c ∈ b.toList, isFileChar c = true ∧ c ≠ '_') : a = b := by
  have hmap : a.toList.map fileChar = b.toList := by
    rw [fileName_eq_iff.1 h]
    exact map_fileChar_eq_self fun c hc => (hown c hc).1
  have hkept : ∀ c ∈ a.toList, isFileChar c = true := by
    intro c hc
    have hmem : fileChar c ∈ b.toList := by
      rw [← hmap]
      exact List.mem_map_of_mem hc
    rw [eq_fileChar_of_ne (hown _ hmem).2]
    exact isFileChar_fileChar c
  rw [map_fileChar_eq_self hkept] at hmap
  exact String.toList_inj.1 hmap

/-! ## Stems -/

theorem stem_of_append {cs : List Char} (hname : name.toList = cs ++ extension.toList)
    (hcs : cs ≠ []) : stem name = String.ofList cs := by
  simp [stem, hname, extension, hcs]

theorem stem_extension : stem extension = extension := by
  decide

/-- A file name leads back to itself if it is one that could have been made for an id. -/
theorem fileName_stem (hsuffix : extension.toList <:+ name.toList) (hname : name ≠ extension)
    (hchars : ∀ c ∈ name.toList, isFileChar c = true) : fileName (stem name) = name := by
  obtain ⟨cs, hcs⟩ := hsuffix
  have hne : cs ≠ [] := by
    rintro rfl
    exact hname (String.toList_inj.1 hcs.symm)
  have hkept : ∀ c ∈ cs, isFileChar c = true := by
    intro c hc
    apply hchars
    rw [← hcs]
    exact List.mem_append_left _ hc
  rw [stem_of_append hcs.symm hne, ← String.toList_inj, toList_fileName, String.toList_ofList,
    map_fileChar_eq_self hkept, hcs]

/-- An id of which nothing is replaced is the stem of its file. -/
theorem stem_fileName (hid : id ≠ "") (hkept : ∀ c ∈ id.toList, isFileChar c = true) :
    stem (fileName id) = id := by
  have hname : (fileName id).toList = id.toList ++ extension.toList := by
    rw [toList_fileName, map_fileChar_eq_self hkept]
  rw [stem_of_append hname (mt String.toList_eq_nil_iff.1 hid), String.ofList_toList]

/-! ## Lengths -/

/-- The name of the file is not too long. -/
def Fits (id : String) : Prop :=
  (fileName id).utf8ByteSize ≤ maxNameBytes

instance (id : String) : Decidable (Fits id) :=
  inferInstanceAs (Decidable (_ ≤ _))

theorem usableName_of_fits (h : Fits id) : usableName id = .ok (fileName id) := by
  rw [usableName, if_neg (Nat.not_lt.2 h)]

theorem utf8ByteSize_map_fileChar_le (cs : List Char) :
    (String.ofList (cs.map fileChar)).utf8ByteSize ≤ (String.ofList cs).utf8ByteSize := by
  induction cs with
  | nil => simp
  | cons c cs ih =>
      have hchar : (fileChar c).utf8Size ≤ c.utf8Size := by
        unfold fileChar
        split
        · exact Nat.le_refl _
        · exact c.utf8Size_pos
      rw [List.map_cons, String.ofList_cons, String.ofList_cons, String.utf8ByteSize_append,
        String.utf8ByteSize_append, String.utf8ByteSize_singleton, String.utf8ByteSize_singleton]
      omega

theorem fits_stem (hsuffix : extension.toList <:+ name.toList)
    (hname : name.utf8ByteSize ≤ maxNameBytes) : Fits (stem name) := by
  obtain ⟨cs, hcs⟩ := hsuffix
  by_cases hne : cs = []
  · subst hne
    rw [← String.toList_inj.1 hcs, stem_extension]
    decide
  · have hsize := utf8ByteSize_map_fileChar_le cs
    have hname' : name = String.ofList cs ++ extension := by
      rw [← String.toList_inj, ← hcs, String.toList_append, String.toList_ofList]
    have hfile : fileName (stem name) = String.ofList (cs.map fileChar) ++ extension := by
      rw [← String.toList_inj, toList_fileName, stem_of_append hcs.symm hne,
        String.toList_append, String.toList_ofList, String.toList_ofList]
    rw [hname', String.utf8ByteSize_append] at hname
    rw [Fits, hfile, String.utf8ByteSize_append]
    omega

/-! ## Known sites -/

theorem of_known {P : String → Prop} (hall : ∀ g ∈ Grammar.knownSites, P g.id)
    {grammar : Grammar} (h : Grammar.known? id = some grammar) : P id := by
  have hid : grammar.id = id := by simpa using List.find?_some h
  rw [← hid]
  exact hall grammar (List.mem_of_find?_eq_some h)

theorem own_of_known {grammar : Grammar} (h : Grammar.known? id = some grammar) :
    ∀ c ∈ id.toList, isFileChar c = true ∧ c ≠ '_' := by
  have hall : id.toList.all (fun c => isFileChar c && c != '_') = true :=
    of_known (P := fun id => id.toList.all (fun c => isFileChar c && c != '_') = true) (by decide) h
  simpa using hall

theorem stem_fileName_of_known {grammar : Grammar} (h : Grammar.known? id = some grammar) :
    stem (fileName id) = id := by
  have hid : id ≠ "" := of_known (P := (· ≠ "")) (by decide) h
  exact stem_fileName hid fun c hc => (own_of_known h c hc).1

theorem fits_of_known {grammar : Grammar} (h : Grammar.known? id = some grammar) : Fits id :=
  of_known (by decide) h

end Feuilleton.GrammarStore
