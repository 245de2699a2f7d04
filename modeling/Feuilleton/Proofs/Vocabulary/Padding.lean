import Feuilleton.Proofs.Schema.RoundTrip
import Feuilleton.Proofs.Text.Trimmed
import Feuilleton.Vocabulary.InfoField
import Feuilleton.Vocabulary.Status

/-!
# Padded keywords

Blanks may stand around a keyword, and colons behind it, with blanks before them and after. A text
names a status or a field exactly if its lowercase form is a keyword with such padding.
-/

namespace Feuilleton

variable {word text : String} {gap colons : List Char} {α : Type}

/-! ## Padding -/

/-- In lowercase the text is `word` up to blanks and colons around it. -/
def IsPadded (word text : String) : Prop :=
  ∃ lead gap colons tail : List Char, (∀ c ∈ lead, Text.isBlank c = true) ∧
    (∀ c ∈ gap, Text.isBlank c = true) ∧ (∀ c ∈ colons, isColon c = true) ∧
    (∀ c ∈ tail, Text.isBlank c = true) ∧
    (Text.lower text).toList = lead ++ word.toList ++ gap ++ colons ++ tail

/-- A word that begins with no blank and ends in neither a blank nor a colon. -/
def isPlainWord (word : String) : Bool :=
  word.toList.head?.any (!Text.isBlank ·) &&
    word.toList.getLast?.any fun c => !Text.isBlank c && !isColon c

theorem isBlank_eq_false_of_isColon {c : Char} (h : isColon c = true) :
    Text.isBlank c = false := by
  simp only [isColon, Bool.or_eq_true, beq_iff_eq] at h
  rcases h with rfl | rfl <;> decide

theorem isColon_eq_false_of_isBlank {c : Char} (h : Text.isBlank c = true) :
    isColon c = false := by
  by_contra hcolon
  rw [Bool.not_eq_false] at hcolon
  rw [isBlank_eq_false_of_isColon hcolon] at h
  contradiction

/-- What is taken away from a label is padding. -/
theorem isPadded_normalizeLabel (text : String) : IsPadded (normalizeLabel text) text := by
  obtain ⟨lead, tail, hlead, htail, houter⟩ :=
    Text.exists_eq_append_trimList (Text.lower text).toList
  generalize hlabel : Text.trimList (Text.lower text).toList = label at houter
  obtain ⟨colons, hlabelled, hcolons⟩ := Text.exists_append_dropEndWhile isColon label
  obtain ⟨inner, gap, hinner, hgap, hname⟩ :=
    Text.exists_eq_append_trimList (Text.dropEndWhile isColon label)
  have hword : (normalizeLabel text).toList =
      Text.trimList (Text.dropEndWhile isColon label) := by
    rw [normalizeLabel, String.toList_ofList, hlabel]
  refine ⟨lead ++ inner, gap, colons, tail, ?_, hgap, hcolons, htail, ?_⟩
  · exact List.forall_mem_append.2 ⟨hlead, hinner⟩
  · rw [houter, hlabelled, hword]
    nth_rewrite 1 [hname]
    simp only [List.append_assoc]

theorem head?_of_isPlainWord (h : isPlainWord word = true) (cs : List Char) :
    ∀ c, (word.toList ++ cs).head? = some c → Text.isBlank c = false := by
  rw [isPlainWord, Bool.and_eq_true, Option.any_eq_true] at h
  obtain ⟨⟨first, hfirst, hblank⟩, -⟩ := h
  intro c hc
  rw [List.head?_append, hfirst, Option.some_or, Option.some.injEq] at hc
  simpa [hc] using hblank

theorem getLast?_of_isPlainWord (h : isPlainWord word = true) :
    ∀ c, word.toList.getLast? = some c → Text.isBlank c = false ∧ isColon c = false := by
  rw [isPlainWord, Bool.and_eq_true] at h
  intro c hc
  simpa [hc] using h.2

theorem trimList_of_isPlainWord (h : isPlainWord word = true) :
    Text.trimList word.toList = word.toList := by
  have hhead := head?_of_isPlainWord h []
  rw [List.append_nil] at hhead
  exact Text.trimList_eq_self hhead fun c hc => (getLast?_of_isPlainWord h c hc).1

theorem dropEndWhile_isColon_append (hword : isPlainWord word = true)
    (hgap : ∀ c ∈ gap, Text.isBlank c = true) :
    Text.dropEndWhile isColon (word.toList ++ gap) = word.toList ++ gap := by
  apply Text.dropEndWhile_eq_self
  intro c hc
  rw [List.getLast?_append, Option.or_eq_some_iff] at hc
  rcases hc with hc | ⟨-, hc⟩
  · exact isColon_eq_false_of_isBlank (hgap c (List.mem_of_getLast? hc))
  · exact (getLast?_of_isPlainWord hword c hc).2

theorem trimList_append_of_isColon (hword : isPlainWord word = true)
    (hcolons : ∀ c ∈ colons, isColon c = true) (hne : colons ≠ []) :
    Text.trimList (word.toList ++ gap ++ colons) = word.toList ++ gap ++ colons := by
  apply Text.trimList_eq_self
  · rw [List.append_assoc]
    exact head?_of_isPlainWord hword _
  · intro c hc
    rw [List.getLast?_append_of_ne_nil _ hne] at hc
    exact isBlank_eq_false_of_isColon (hcolons c (List.mem_of_getLast? hc))

/-- All padding of a plain word is taken away, and nothing else. -/
theorem normalizeLabel_of_isPadded (hword : isPlainWord word = true) (h : IsPadded word text) :
    normalizeLabel text = word := by
  obtain ⟨lead, gap, colons, tail, hlead, hgap, hcolons, htail, hlower⟩ := h
  have hnamed := dropEndWhile_isColon_append hword hgap
  have hinner : Text.trimList (word.toList ++ gap) = word.toList := by
    rw [Text.trimList_append_of_blank hgap, trimList_of_isPlainWord hword]
  have houter : Text.trimList (Text.lower text).toList =
      Text.trimList (word.toList ++ gap ++ colons) := by
    rw [hlower, Text.trimList_append_of_blank htail, List.append_assoc, List.append_assoc,
      Text.trimList_of_blank_append hlead, List.append_assoc]
  rw [normalizeLabel, houter, ← String.toList_inj, String.toList_ofList]
  by_cases hne : colons = []
  · -- Without colons the gap belongs to the blanks at the end.
    rw [hne, List.append_nil, hinner]
    have hplain := dropEndWhile_isColon_append hword (List.forall_mem_nil _)
    rw [List.append_nil] at hplain
    rw [hplain, trimList_of_isPlainWord hword]
  · rw [trimList_append_of_isColon hword hcolons hne, Text.dropEndWhile_append_of_forall hcolons,
      hnamed, hinner]

/-! ## Keywords -/

theorem lookup_normalizeLabel_iff {names : List (String × α)} {value : α}
    (hwords : ∀ entry ∈ names, isPlainWord entry.1 = true)
    (hnodup : (names.map Prod.fst).Nodup) : names.lookup (normalizeLabel text) = some value ↔
      ∃ word, (word, value) ∈ names ∧ IsPadded word text := by
  constructor
  · intro h
    obtain ⟨front, back, rfl, -⟩ := List.lookup_eq_some_iff.1 h
    exact ⟨_, List.mem_append_right _ List.mem_cons_self, isPadded_normalizeLabel text⟩
  · rintro ⟨word, hmem, hpadded⟩
    rw [normalizeLabel_of_isPadded (hwords _ hmem) hpadded]
    exact lookup_eq_some_of_mem hnodup hmem

theorem isPlainWord_keyword : ∀ entry ∈ Status.keywords, isPlainWord entry.1 = true := by
  decide +kernel

theorem isPlainWord_label : ∀ entry ∈ InfoField.labels, isPlainWord entry.1 = true := by
  decide +kernel

theorem Status.ofText_eq_iff {status : Status} (h : status ≠ unknown) :
    ofText text = status ↔ keywords.lookup (normalizeLabel text) = some status := by
  rw [ofText]
  cases keywords.lookup (normalizeLabel text) with
  | none => simpa using Ne.symm h
  | some found => simp

/-- A text names a known status, or a field, exactly if it is a keyword of that status, or a label
of that field, with padding. -/
theorem names_iff_isPadded (text : String) :
    (∀ status, Status.ofText text = status ∧ status ≠ .unknown ↔
      ∃ word, (word, status) ∈ Status.keywords ∧ IsPadded word text) ∧
    ∀ field, InfoField.ofLabel? text = some field ↔
      ∃ word, (word, field) ∈ InfoField.labels ∧ IsPadded word text := by
  have hstatuses : (Status.keywords.map Prod.fst).Nodup := by decide +kernel
  have hfields : (InfoField.labels.map Prod.fst).Nodup := by decide +kernel
  have hknown : ∀ entry ∈ Status.keywords, entry.2 ≠ .unknown := by decide
  constructor
  · intro status
    rw [← lookup_normalizeLabel_iff isPlainWord_keyword hstatuses]
    constructor
    · rintro ⟨hname, hne⟩
      exact (Status.ofText_eq_iff hne).1 hname
    · intro hlookup
      have hne : status ≠ .unknown := by
        obtain ⟨front, back, heq, -⟩ := List.lookup_eq_some_iff.1 hlookup
        exact hknown (_, status) (by rw [heq]; exact List.mem_append_right _ List.mem_cons_self)
      exact ⟨(Status.ofText_eq_iff hne).2 hlookup, hne⟩
  · intro field
    rw [InfoField.ofLabel?, lookup_normalizeLabel_iff isPlainWord_label hfields]

end Feuilleton
