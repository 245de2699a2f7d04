import Feuilleton.Proofs.Grammar.Operations

/-!
# Listed sites

A store lists the known sites and those that the names of its files stand for, and finds the file
of a site by a name of its own making. The two agree on a file whose name the store could have
made itself. A file that was named by hand is listed under an id that may lead to another file, or
to none. A file that is no text is listed as well, and no grammar is found in it.
-/

namespace Feuilleton.GrammarStore

variable {id name : String}

/-! ## Sites -/

theorem mem_storedIds_iff {directory : Directory} : id ∈ storedIds directory ↔
    ∃ name ∈ directory.names, extension.toList <:+ name.toList ∧ stem name = id := by
  simp [storedIds, List.mem_map, List.mem_filter, and_assoc]

theorem mem_sites_iff {directory : Directory} :
    id ∈ sites { directory := some directory } ↔
      (Grammar.known? id).isSome = true ∨ id ∈ storedIds directory := by
  simp [sites, Grammar.known?, List.mem_eraseDups]

/-- The site has a grammar, or what its file holds is none. -/
def IsFound (directory : Directory) (id : String) : Prop :=
  (∃ grammar, get { directory := some directory } id = .ok grammar) ∨
    ∃ issues, get { directory := some directory } id =
      .error (.invalidGrammar (directory.locate (fileName id)) issues)

section Found

variable {directory : Directory}

theorem isFound_of_mem (hfits : Fits id) (hfile : fileName id ∈ directory.files.keys) :
    IsFound directory id := by
  obtain ⟨text, htext⟩ := Option.isSome_iff_exists.1 (OrderedMap.isSome_get?_iff.2 hfile)
  have hfound := Directory.read_of_get? htext
  cases hread : Grammar.ofText text with
  | valid grammar =>
      exact .inl ⟨grammar, get_eq_ofText rfl (usableName_of_fits hfits) hfound hread⟩
  | invalid issues =>
      refine .inr ⟨issues, ?_⟩
      simp [get, usableName_of_fits hfits, hfound, hread, bind, Except.bind]

/-- A file that is no text ends the search. -/
theorem get_of_illegible (hfits : Fits id) (hfile : fileName id ∈ directory.names)
    (htext : fileName id ∉ directory.files.keys) :
    ∃ error, get { directory := some directory } id = .error (.encoding error) := by
  have hillegible := (List.mem_append.1 hfile).resolve_left htext
  obtain ⟨content, hcontent⟩ := Option.isSome_iff_exists.1 (OrderedMap.isSome_get?_iff.2 hillegible)
  have hnone : directory.files.get? (fileName id) = none := by
    rw [← Option.not_isSome_iff_eq_none, OrderedMap.isSome_get?_iff]
    exact htext
  exact ⟨_, by simp [get, usableName_of_fits hfits, Directory.read, hnone, hcontent, bind,
    Except.bind]; rfl⟩

theorem isFound_iff (hfits : Fits id) : IsFound directory id ↔
    fileName id ∈ directory.files.keys ∨
      fileName id ∉ directory.names ∧ (Grammar.known? id).isSome = true := by
  by_cases htext : fileName id ∈ directory.files.keys
  · simp [htext, isFound_of_mem hfits htext]
  by_cases hfile : fileName id ∈ directory.names
  · obtain ⟨error, hget⟩ := get_of_illegible hfits hfile htext
    simp [IsFound, hget, htext, hfile]
  · rw [IsFound, get_eq_known rfl hfits (Directory.read_eq_none_iff.2 hfile), known]
    cases Grammar.known? id <;> simp [htext, hfile]

/-- A file that is listed as a known site is the file of this site. -/
theorem fileName_stem_of_known (hsuffix : extension.toList <:+ name.toList)
    (hknown : (Grammar.known? (stem name)).isSome = true) : fileName (stem name) = name := by
  obtain ⟨grammar, hgrammar⟩ := Option.isSome_iff_exists.1 hknown
  obtain ⟨cs, hcs⟩ := hsuffix
  by_cases hne : cs = []
  · subst hne
    rw [← String.toList_inj.1 hcs, stem_extension] at hgrammar
    contradiction
  · have hkept := own_of_known hgrammar
    rw [stem_of_append hcs.symm hne, String.toList_ofList] at hkept
    rw [stem_of_append hcs.symm hne, ← String.toList_inj, toList_fileName, String.toList_ofList,
      map_fileChar_eq_self fun c hc => (hkept c hc).1, hcs]

/-- The file is a text and has a name that could have been made for an id, or its stem leads to
another text in the directory. -/
def LeadsToFile (directory : Directory) (name : String) : Prop :=
  ((name ≠ extension ∧ ∀ c ∈ name.toList, isFileChar c = true) ∧ name ∈ directory.files.keys) ∨
    fileName (stem name) ∈ directory.files.keys

theorem leadsToFile_iff (hsuffix : extension.toList <:+ name.toList) :
    LeadsToFile directory name ↔ fileName (stem name) ∈ directory.files.keys := by
  refine or_iff_right_of_imp fun ⟨⟨hne, hchars⟩, hfile⟩ => ?_
  rw [fileName_stem hsuffix hne hchars]
  exact hfile

theorem leadsToFile_of_isFound (hfile : name ∈ directory.names)
    (hsuffix : extension.toList <:+ name.toList) (hname : name.utf8ByteSize ≤ maxNameBytes)
    (h : IsFound directory (stem name)) : LeadsToFile directory name := by
  rcases (isFound_iff (fits_stem hsuffix hname)).1 h with htext | ⟨hnone, hknown⟩
  · exact .inr htext
  · rw [fileName_stem_of_known hsuffix hknown] at hnone
    exact absurd hfile hnone

theorem isFound_stem (hsuffix : extension.toList <:+ name.toList)
    (hname : name.utf8ByteSize ≤ maxNameBytes) (h : LeadsToFile directory name) :
    IsFound directory (stem name) :=
  isFound_of_mem (fits_stem hsuffix hname) ((leadsToFile_iff hsuffix).1 h)

/-- A known site is found unless its file is no text. -/
theorem isFound_of_known (h : (Grammar.known? id).isSome = true)
    (hfile : fileName id ∈ directory.names → LeadsToFile directory (fileName id)) :
    IsFound directory id := by
  obtain ⟨grammar, hgrammar⟩ := Option.isSome_iff_exists.1 h
  have hfits := fits_of_known hgrammar
  by_cases hmem : fileName id ∈ directory.names
  · have hsuffix : extension.toList <:+ (fileName id).toList := ⟨_, (toList_fileName id).symm⟩
    have hfound := isFound_stem hsuffix hfits (hfile hmem)
    rwa [stem_fileName_of_known hgrammar] at hfound
  · exact (isFound_iff hfits).2 (.inr ⟨hmem, h⟩)

theorem isFound_of_mem_sites
    (hnames : ∀ name ∈ directory.names, name.utf8ByteSize ≤ maxNameBytes)
    (hfiles : ∀ name ∈ directory.names, extension.toList <:+ name.toList →
      LeadsToFile directory name)
    (h : id ∈ sites { directory := some directory }) : IsFound directory id := by
  rcases mem_sites_iff.1 h with hknown | hstored
  · exact isFound_of_known hknown fun hmem => hfiles _ hmem ⟨_, (toList_fileName id).symm⟩
  · obtain ⟨name, hname, hsuffix, rfl⟩ := mem_storedIds_iff.1 hstored
    exact isFound_stem hsuffix (hnames name hname) (hfiles name hname hsuffix)

/-- All listed sites are found exactly if each file that is listed leads to a text. -/
theorem isFound_sites_iff
    (hnames : ∀ name ∈ directory.names, name.utf8ByteSize ≤ maxNameBytes) :
    (∀ id ∈ sites { directory := some directory }, IsFound directory id) ↔
      ∀ name ∈ directory.names, extension.toList <:+ name.toList →
        LeadsToFile directory name := by
  refine ⟨fun hfound name hname hsuffix => ?_, fun hfiles _ => isFound_of_mem_sites hnames hfiles⟩
  apply leadsToFile_of_isFound hname hsuffix (hnames name hname)
  exact hfound _ (mem_sites_iff.2 (.inr (mem_storedIds_iff.2 ⟨name, hname, hsuffix, rfl⟩)))

end Found

/-- A file that was named by hand. -/
private def spacedDirectory : Directory where
  path := "grammars"
  files := OrderedMap.ofList [("a b.json", "[]")]

/-- The site is listed as it was named, but looked up under another name. -/
theorem not_isFound_spacedDirectory :
    ¬∀ id ∈ sites { directory := some spacedDirectory }, IsFound spacedDirectory id := by
  have hstored : "a b" ∈ storedIds spacedDirectory :=
    mem_storedIds_iff.2 ⟨"a b.json", by decide, by decide, rfl⟩
  have hunknown : get { directory := some spacedDirectory } "a b" =
      .error (.unknownSite "a b") := rfl
  intro h
  rcases h _ (mem_sites_iff.2 (.inr hstored)) with ⟨grammar, hget⟩ | ⟨issues, hget⟩
  · rw [hunknown] at hget
    contradiction
  · rw [hunknown] at hget
    cases hget

private def picture : Illegible where
  bytes := [0xFF, 0xD8]
  fault := Encoding.Utf8.faultOf [0xFF] [0xD8]
  position := 0
  isFault := by simp [Encoding.Utf8.findFault?, Encoding.Utf8.decodeFirst]; decide

/-- The stem of one file leads to the other, whose own stem leads to itself. The picture is not
listed. -/
private def pairedDirectory : Directory where
  path := "grammars"
  files := OrderedMap.ofList [("a b.json", "[]"), ("a_b.json", "[]"), ("notes.txt", "")]
  illegible := OrderedMap.ofList [("a_b.jpg", picture)]

theorem isFound_pairedDirectory :
    (∀ name ∈ pairedDirectory.names, name.utf8ByteSize ≤ maxNameBytes) ∧
      ∀ id ∈ sites { directory := some pairedDirectory }, IsFound pairedDirectory id := by
  have hnames : ∀ name ∈ pairedDirectory.names, name.utf8ByteSize ≤ maxNameBytes := by decide
  refine ⟨hnames, (isFound_sites_iff hnames).2 ?_⟩
  have hfiles : ∀ name ∈ pairedDirectory.names, extension.toList <:+ name.toList →
      fileName (stem name) ∈ pairedDirectory.files.keys := by
    decide
  intro name hname hsuffix
  exact .inr (hfiles name hname hsuffix)

/-! ## Files written by operations -/

def work (store : GrammarStore) (ops : List Operation) : GrammarStore :=
  ops.foldl (fun store op => (store.perform op).2) store

theorem Keeps.work {store : GrammarStore} {shelf : Shelf} (h : store.Keeps shelf)
    {ops : List Operation} (hfits : ∀ op ∈ ops, Fits op.id) :
    (store.work ops).Keeps (Shelf.after fileName shelf ops) := by
  induction ops generalizing store shelf with
  | nil => exact h
  | cons op ops ih =>
      rw [List.forall_mem_cons] at hfits
      exact ih (h.perform hfits.1).2 hfits.2

theorem Shelf.after_of_ne {key : String → String} {shelf : Shelf} {place : String}
    {ops : List Operation} (h : ∀ op ∈ ops, key op.id ≠ place) :
    Shelf.after key shelf ops place = shelf place := by
  induction ops generalizing shelf with
  | nil => rfl
  | cons op ops ih =>
      rw [List.forall_mem_cons] at h
      exact (ih h.2).trans (Shelf.next_of_ne h.1)

section Work

variable {path : String} {ops : List Operation} {directory : Directory}

/-- All files of a store that only operations have written are texts, and files of their ids. -/
theorem exists_of_mem_work (hfits : ∀ op ∈ ops, Fits op.id)
    (h : ((fresh path).work ops).directory = some directory) (hname : name ∈ directory.names) :
    name ∈ directory.files.keys ∧ ∃ op ∈ ops, fileName op.id = name := by
  obtain ⟨other, hother, hfiles⟩ := (keeps_fresh path).work hfits
  obtain rfl := Option.some.inj (h.symm.trans hother)
  rw [mem_names_iff hfiles] at hname
  obtain ⟨grammar, hgrammar⟩ := Option.isSome_iff_exists.1 hname
  have hread := hfiles name
  rw [hgrammar] at hread
  refine ⟨Directory.mem_keys_of_read hread, ?_⟩
  by_contra hnone
  rw [Shelf.after_of_ne fun op hop hfile => hnone ⟨op, hop, hfile⟩] at hname
  contradiction

/-- What operations write under ids that are not empty is listed and found. -/
theorem isFound_of_work (hfits : ∀ op ∈ ops, Fits op.id) (hids : ∀ op ∈ ops, op.id ≠ "")
    (h : ((fresh path).work ops).directory = some directory) :
    ∀ id ∈ sites { directory := some directory }, IsFound directory id := by
  refine fun id => isFound_of_mem_sites (fun name hname => ?_) fun name hname _ => ?_
  all_goals obtain ⟨htext, op, hop, rfl⟩ := exists_of_mem_work hfits h hname
  · exact hfits op hop
  · refine .inl ⟨⟨fileName_ne_extension (hids op hop), ?_⟩, htext⟩
    exact fun c hc => isFileChar_of_mem_fileName hc

end Work

end Feuilleton.GrammarStore
