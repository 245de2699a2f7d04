import Mathlib.Data.List.Induction
import Feuilleton.Grammar.Theme
import Feuilleton.Proofs.Extraction.Credits

/-!
# Labels in the information block

Every text that is read in the information block is the value of the active field first, and then
looked up as a label. So a label becomes a name where an earlier label of that person still waits
for one, or goes on with the name that it has, and nowhere else.
-/

namespace Feuilleton

namespace Credits

variable {c d : Credits} {person : Person} {content label : String} {notices : List Notice}
  {values : List String}

/-! ## Fields that stay active -/

theorem after_labelEnded_of_not_captured (h : c.captured = false) : c.after .labelEnded = c := by
  rw [after, h]
  rfl

theorem afterAll_labelsEnded (closes : Nat) (h : 0 < closes → c.captured = false) :
    c.afterAll (List.replicate closes .labelEnded) = c := by
  induction closes with
  | zero => rfl
  | succ closes ih =>
      have hcaptured := h (Nat.succ_pos closes)
      rw [List.replicate_succ, afterAll_cons, after_labelEnded_of_not_captured hcaptured]
      exact ih fun _ => hcaptured

theorem activeField_read_of_value (h : InfoField.ofLabel? content = none) :
    (c.after (.read content)).activeField = c.activeField := by
  simp [h]

theorem activeField_values (h : ∀ value ∈ values, InfoField.ofLabel? value = none) :
    (c.afterAll (values.map .read)).activeField = c.activeField := by
  induction values generalizing c with
  | nil => rfl
  | cons value values ih =>
      obtain ⟨hvalue, hrest⟩ := List.forall_mem_cons.1 h
      rw [List.map_cons, afterAll_cons, ih hrest, activeField_read_of_value hvalue]

/-- While the field of a person is active, the person is given every text that is read. -/
theorem name_values (hfield : c.activeField = some person.field)
    (h : ∀ value ∈ values, InfoField.ofLabel? value = none) :
    (c.afterAll (values.map .read)).name person =
      c.name person ++ String.join (values.map State.personText) := by
  induction values generalizing c with
  | nil => simp
  | cons value values ih =>
      obtain ⟨hvalue, hrest⟩ := List.forall_mem_cons.1 h
      rw [List.map_cons, afterAll_cons, ih ((activeField_read_of_value hvalue).trans hfield) hrest,
        name_read, name_assign, if_pos hfield, List.map_cons, String.join_cons, String.append_assoc]

theorem values_eq_nil (h : String.join (values.map State.personText) = "") : values = [] := by
  cases values with
  | nil => rfl
  | cons value values =>
      rw [List.map_cons, String.join_cons, String.append_eq_empty_iff] at h
      exact absurd h.1 (State.personText_ne_empty value)

end Credits

/-! ## Labels that wait -/

/-- The credits that begin with none. -/
def Credits.ofNotices (notices : List Notice) : Credits :=
  afterAll {} notices

/-- The last label that was read is one of the person, and is followed by values. Tags of labels may
have ended before the first value, as long as the person had no name. -/
def Awaits (person : Person) (notices : List Notice) : Prop :=
  ∃ front label closes, ∃ values : List String,
    notices = front ++ .read label :: (List.replicate closes .labelEnded ++ values.map .read) ∧
    InfoField.ofLabel? label = some person.field ∧
    (∀ value ∈ values, InfoField.ofLabel? value = none) ∧
    (0 < closes → (Credits.ofNotices (front ++ [.read label])).name person = "")

namespace Credits

variable {person : Person} {front notices : List Notice} {label : String} {closes : Nat}

theorem ofNotices_append (first rest : List Notice) :
    ofNotices (first ++ rest) = (ofNotices first).afterAll rest :=
  afterAll_append first rest

theorem activeField_label (h : InfoField.ofLabel? label = some person.field) :
    (ofNotices (front ++ [.read label])).activeField = some person.field := by
  rw [ofNotices_append, afterAll_cons, afterAll_nil, activeField_read, h]
  rfl

/-- The tags that end behind the label change nothing. -/
theorem ofNotices_awaiting (values : List String)
    (hlabel : InfoField.ofLabel? label = some person.field)
    (hempty : 0 < closes → (ofNotices (front ++ [.read label])).name person = "") :
    ofNotices (front ++ .read label :: (List.replicate closes .labelEnded ++ values.map .read)) =
      (ofNotices (front ++ [.read label])).afterAll (values.map .read) := by
  have hfree : 0 < closes → (ofNotices (front ++ [.read label])).captured = false := by
    intro hcloses
    rw [captured_of_person (activeField_label hlabel), hempty hcloses]
    rfl
  rw [List.append_cons, ofNotices_append, afterAll_append, afterAll_labelsEnded closes hfree]

theorem activeField_of_awaits (h : Awaits person notices) :
    (ofNotices notices).activeField = some person.field := by
  obtain ⟨front, label, closes, values, rfl, hlabel, hvalues, hempty⟩ := h
  rw [ofNotices_awaiting values hlabel hempty, activeField_values hvalues, activeField_label hlabel]

/-- The induction is on the last notice, which is the one that decides. -/
theorem awaits_of_activeField (h : (ofNotices notices).activeField = some person.field) :
    Awaits person notices := by
  induction notices using List.reverseRecOn with
  | nil => cases h
  | append_singleton notices notice ih =>
      rw [ofNotices_append, afterAll_cons, afterAll_nil] at h
      cases notice with
      | begun => cases h
      | statusBegun => cases person <;> cases h
      | read content =>
          rw [activeField_read] at h
          cases hcontent : InfoField.ofLabel? content with
          | some field =>
              have hfield : field = person.field := by simpa [hcontent] using h
              exact ⟨notices, content, 0, [], by simp, hcontent.trans (congrArg some hfield),
                by simp, by simp⟩
          | none =>
              have hactive : (ofNotices notices).activeField = some person.field := by
                simpa [hcontent] using h
              obtain ⟨front, label, closes, values, rfl, hlabel, hvalues, hempty⟩ := ih hactive
              refine ⟨front, label, closes, values ++ [content], by simp, hlabel, ?_, hempty⟩
              intro value hvalue
              rcases List.mem_append.1 hvalue with hvalue | hvalue
              · exact hvalues value hvalue
              · rw [List.mem_singleton.1 hvalue, hcontent]
      | labelEnded =>
          rw [activeField_labelEnded] at h
          split at h
          · cases h
          rename_i hcaptured
          obtain ⟨front, label, closes, values, rfl, hlabel, hvalues, hempty⟩ := ih h
          rw [captured_of_person h, ofNotices_awaiting values hlabel hempty,
            name_values (activeField_label hlabel) hvalues] at hcaptured
          -- The person has no name yet, so that no value was read and the label is still the last.
          obtain ⟨hbefore, hjoined⟩ : (ofNotices (front ++ [.read label])).name person = "" ∧
              String.join (values.map State.personText) = "" := by
            simpa using hcaptured
          rw [values_eq_nil hjoined]
          refine ⟨front, label, closes + 1, [], ?_, hlabel, by simp, fun _ => hbefore⟩
          simp [List.replicate_succ']
      | ended => cases h

theorem activeField_eq_some_iff :
    (ofNotices notices).activeField = some person.field ↔ Awaits person notices :=
  ⟨awaits_of_activeField, activeField_of_awaits⟩

end Credits

namespace State

variable {g : Grammar} {p : Policy} {s t : State} {path content : String} {events : List Event}
  {field : InfoField}

/-- A label is read as the name of a person exactly where an earlier label of that person awaits it;
there it is added to the name as it is. -/
theorem name_of_step_label (hs : (initial path).run g p events = .ok s)
    (hstep : s.step g p (.text content) = .ok t) (hlabel : InfoField.ofLabel? content = some field)
    (person : Person) :
    (t.credits.name person ≠ s.credits.name person ↔
      s.mode = .info ∧ s.info.readingLabel = true ∧
        Awaits person ((initial path).noticesAlong g p events)) ∧
    (t.credits.name person ≠ s.credits.name person →
      t.credits.name person = s.credits.name person ++ content) := by
  have hempty : InfoField.ofLabel? "" = none := by decide +kernel
  have hcontent : content ≠ "" := by
    rintro rfl
    rw [hempty] at hlabel
    cases hlabel
  have hcredits : s.credits = Credits.ofNotices ((initial path).noticesAlong g p events) :=
    credits_of_run hs
  have hnext : t.credits = s.credits.afterAll (s.noticesText content) := credits_of_step hstep
  rw [← Credits.activeField_eq_some_iff, ← hcredits, hnext, noticesText, ← and_assoc]
  by_cases hread : s.mode = .info ∧ s.info.readingLabel = true
  · rw [if_pos hread, Credits.afterAll_cons, Credits.afterAll_nil, Credits.name_read,
      Credits.name_assign, personText_of_ne hcontent]
    split
    · rename_i hfield
      simp [hread, hfield, hcontent]
    · rename_i hfield
      simp [hfield]
  · rw [if_neg hread, Credits.afterAll_nil]
    simp [hread]

private def labelSite : Grammar :=
  .lightNovel { id := "t", sourceName := "T", site := "https://e.com/" }

private def labelPolicy : Policy where
  now := ⟨⟨2024, 1, 10⟩, 43200⟩

/-- The author's label has no value, and that of the artist comes next. -/
private def namelessFront : List Event := [
  .opened "div" (.ofList [("class", "spe")]), .opened "span" ∅,
  .opened "b" ∅, .text "Author:", .closed "b", .closed "span",
  .opened "span" ∅, .opened "b" ∅]

private def namelessState : State where
  mode := .info
  info := { readingLabel := true, labelTag := some "span", activeField := some .author }
  seen := 8

theorem name_of_artistLabel : ∃ t,
    namelessState.step labelSite labelPolicy (.text "Artist:") = .ok t ∧
    t.credits.name .author = "Artist:" := by
  have hs : (initial "").run labelSite labelPolicy namelessFront = .ok namelessState := rfl
  have hlabel : InfoField.ofLabel? "Artist:" = some .artist := by decide +kernel
  refine ⟨_, rfl, ?_⟩
  obtain ⟨hiff, hname⟩ := name_of_step_label hs rfl hlabel .author
  refine hname (hiff.2 ⟨rfl, rfl, [.begun], "Author:", 1, [], ?_, ?_, ?_, ?_⟩)
  · rfl
  · decide +kernel
  · simp
  · intro _
    decide +kernel

/-- A label without a value takes the next label as its name. -/
theorem label_becomes_author : ∃ t,
    (initial "").run labelSite labelPolicy namelessFront = .ok namelessState ∧
    (InfoField.ofLabel? "Artist:").isSome = true ∧
    namelessState.step labelSite labelPolicy (.text "Artist:") = .ok t ∧
    t.work.author ≠ namelessState.work.author ∧
    extract labelSite labelPolicy "" (namelessFront ++ [.text "Artist:", .closed "b", .text "Bob",
      .closed "span", .closed "div"]) = .ok { author := "Artist:", artist := "Bob" } := by
  refine ⟨_, rfl, by decide +kernel, rfl, by decide +kernel, rfl⟩

end State

end Feuilleton
