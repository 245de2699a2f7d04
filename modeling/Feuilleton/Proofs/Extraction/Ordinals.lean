import Feuilleton.Grammar.Theme
import Feuilleton.Proofs.Extraction.Growth
import Feuilleton.Proofs.Extraction.ItemCells

/-!
# Numbers of chapters

Where numbers are parsed, the digits of a title are meant for items whose number cell has none. A
number cell that says zero is taken for one without digits: the chapter then has the digits of its
title.
-/

namespace Feuilleton

variable {g : Grammar} {p : Policy} {numbers titles : List String} {n : Nat}

/-! ## Texts that number an item -/

/-- The cells that may number an item are those of its number and its title. -/
def Reading.mayNumber (reading : Reading) : Bool :=
  reading.cell == .number || reading.cell == .title

/-- The number that these texts of number cells give. -/
def lastNumber? (numbers : List String) : Option Nat :=
  (numbers.filterMap trailingValue?).getLast?

/-- The number of an item with these texts: a zero is passed over like a text without digits. -/
def numberOfTexts (numbers titles : List String) : Nat :=
  (((lastNumber? numbers).toList ++ titles.filterMap trailingValue?).find? (· ≠ 0)).getD 0

theorem find?_ne_zero_eq_zero_iff {values : List Nat} :
    (values.find? (· ≠ 0)).getD 0 = 0 ↔ ∀ k ∈ values, k = 0 := by
  cases hfind : values.find? (· ≠ 0) with
  | none =>
      have hall := List.find?_eq_none.1 hfind
      simp only [decide_eq_true_eq, ne_eq, Decidable.not_not] at hall
      exact iff_of_true rfl hall
  | some k =>
      have hk := List.find?_some hfind
      simp only [decide_eq_true_eq] at hk
      constructor
      · intro hzero
        exact absurd hzero hk
      · intro hall
        exact hall k (List.mem_of_find?_eq_some hfind)

theorem numberOfTexts_eq_iff (h : lastNumber? numbers = some n) :
    numberOfTexts numbers titles = n ↔
      n ≠ 0 ∨ ∀ title ∈ titles, (trailingValue? title).getD 0 = 0 := by
  unfold numberOfTexts
  rw [h, Option.toList_some, List.singleton_append]
  by_cases hn : n = 0
  · subst hn
    rw [List.find?_cons_of_neg (by simp), find?_ne_zero_eq_zero_iff]
    constructor
    · intro hall
      right
      intro title htitle
      cases hvalue : trailingValue? title with
      | none => rfl
      | some k => exact hall k (List.mem_filterMap.2 ⟨title, htitle, hvalue⟩)
    · rintro (hne | hall) k hk
      · contradiction
      · obtain ⟨title, htitle, hvalue⟩ := List.mem_filterMap.1 hk
        simpa [hvalue] using hall title htitle
  · simp [hn]

theorem foldl_takeNumber (numbers : List String) (number : Option Nat) :
    numbers.foldl (fun number content => (trailingValue? content).or number) number =
      (lastNumber? numbers).or number := by
  unfold lastNumber?
  induction numbers generalizing number with
  | nil => rfl
  | cons content rest ih =>
      rw [List.foldl_cons, ih]
      cases hvalue : trailingValue? content with
      | none => rw [List.filterMap_cons_none hvalue, Option.none_or]
      | some k =>
          rw [List.filterMap_cons_some hvalue, List.getLast?_cons]
          cases (rest.filterMap trailingValue?).getLast? <;> rfl

theorem foldl_numberBehindTitle (titles : List String) (number : Option Nat) :
    (titles.foldl (fun number title => State.numberBehindTitle number (trailingValue? title))
      number).getD 0 =
        ((number.toList ++ titles.filterMap trailingValue?).find? (· ≠ 0)).getD 0 := by
  induction titles generalizing number with
  | nil =>
      cases number with
      | none => rfl
      | some k => by_cases hk : k = 0 <;> simp [hk]
  | cons title rest ih =>
      rw [List.foldl_cons, ih, State.numberBehindTitle]
      cases hvalue : trailingValue? title with
      | none => rw [List.filterMap_cons_none hvalue, Option.none_or, ite_self]
      | some k =>
          rw [List.filterMap_cons_some hvalue]
          -- a number that is not zero stands before all titles, and a zero is passed over
          split
          · rename_i hzero
            cases number with
            | none => rfl
            | some j =>
                obtain rfl : j = 0 := hzero
                rfl
          · rename_i hnumber
            obtain ⟨j, rfl⟩ : ∃ j, number = some j := by
              cases number with
              | none => exact absurd rfl hnumber
              | some j => exact ⟨j, rfl⟩
            have hj : j ≠ 0 := hnumber
            simp [hj]

namespace Tally

variable {glyph : String} {readings : List Reading}

theorem number_of_cell {cell : Cell} (act : Option Nat → String → Option Nat)
    {contents : List String} (hcell : ∀ (tally : Tally) content,
      (tally.after glyph ⟨cell, content⟩).number = act tally.number content)
    (h : readings.filter (·.mayNumber) = contents.map (⟨cell, ·⟩)) (tally : Tally) :
    (tally.afterAll glyph readings).number = contents.foldl act tally.number := by
  have hother : ∀ (tally : Tally) (reading : Reading), reading.mayNumber = false →
      (tally.after glyph reading).number = tally.number := by
    rintro tally ⟨_ | _ | _ | _, content⟩ hkeep
    · cases hkeep
    · cases hkeep
    · rw [after]
    · rw [after]
  exact afterAll_of_filter (·.number) act hother hcell h tally

theorem number_of_texts (h : readings.filter (·.mayNumber) =
      numbers.map (⟨.number, ·⟩) ++ titles.map (⟨.title, ·⟩))
    {tally : Tally} (htally : tally.number = none) :
    (tally.afterAll glyph readings).number.getD 0 = numberOfTexts numbers titles := by
  obtain ⟨first, rest, rfl, hfirst, hrest⟩ := List.filter_eq_append_iff.1 h
  have hnumber : (tally.afterAll glyph first).number = lastNumber? numbers := by
    rw [number_of_cell (fun number content => (trailingValue? content).or number)
      (fun _ _ => rfl) hfirst, foldl_takeNumber, htally, Option.or_none]
  rw [afterAll_append, number_of_cell
    (fun number title => State.numberBehindTitle number (trailingValue? title))
    (fun _ _ => rfl) hrest, foldl_numberBehindTitle, hnumber]
  rfl

end Tally

namespace State

variable {s o c t : State} {name tag path : String} {attributes : Attributes}
  {body before after : List Event} {work : Work}

/-! ## Items -/

/-- An item of the list from its first tag to its last. Its chapter is kept, and the texts that may
number it are these, with those of its number before those of its title. -/
structure KeepsItem (g : Grammar) (p : Policy) (s : State) (name : String)
    (attributes : Attributes) (body : List Event) (tag : String) (numbers titles : List String)
    (o c t : State) : Prop where
  outside : s.chapters.draft = none
  begins : s.step g p (.opened name attributes) = .ok o
  inside : InItem g p o body c
  texts : (o.readings g p body).filter (·.mayNumber) =
    numbers.map (⟨.number, ·⟩) ++ titles.map (⟨.title, ·⟩)
  step : c.step g p (.closed tag) = .ok t
  ended : t.chapters.draft = none
  kept : t.chapters.records ≠ s.chapters.records

theorem fresh_of_step (hdraft : s.chapters.draft = none)
    (h : s.step g p (.opened name attributes) = .ok o) {draft : ChapterDraft}
    (ho : o.chapters.draft = some draft) :
    draft.number = none ∧ o.chapters.records = s.chapters.records := by
  cases h
  have hcounted : s.count.chapters.draft = none := hdraft
  have hnone : ∀ {c : ChapterState}, c.draft = none → c.draft ≠ some draft := by
    intro c hc hsome
    cases hc.symm.trans hsome
  rw [chapters_stepOpened] at ho ⊢
  split at ho
  · simp only [openChapters, hcounted, openItem] at ho ⊢
    split at ho
    · rename_i hitem
      cases ho
      rw [if_pos hitem]
      exact ⟨rfl, rfl⟩
    · exact absurd ho (hnone hcounted)
  · split at ho
    · exact absurd ho (hnone hcounted)
    · exact absurd ho (hnone hcounted)
  · exact absurd ho (hnone hcounted)

theorem KeepsItem.run (h : KeepsItem g p s name attributes body tag numbers titles o c t) :
    s.run g p (.opened name attributes :: body ++ [.closed tag]) = .ok t := by
  rw [List.cons_append, run_cons_of_step _ h.begins, run_append_of_run _ h.inside.run,
    run_cons_of_step _ h.step, run_nil]

theorem KeepsItem.record (h : KeepsItem g p s name attributes body tag numbers titles o c t)
    (hs : Coherent p s) : ∃ chapter : Chapter,
      t.chapters.records = s.chapters.records ++ [chapter] ∧
        chapter.number = numberOfTexts numbers titles := by
  have ho : Coherent p o := hs.step h.begins
  obtain ⟨draft, hdraft⟩ := Option.isSome_iff_exists.1 h.inside.first
  obtain ⟨hfresh, hrecords⟩ := fresh_of_step h.outside h.begins hdraft
  obtain ⟨⟨item, hitem, -, htally⟩, hread⟩ := h.inside.readsOn ho hdraft
  have hends := endsItem_of_step (ho.run h.inside.run) hitem h.step h.ended
  have hnumber : item.number.getD 0 = numberOfTexts numbers titles := by
    rw [← show (c.chapters.tally item).number = item.number from rfl, htally]
    exact Tally.number_of_texts h.texts hfresh
  have hadded := hends.records
  rw [hread, hrecords] at hadded
  split at hadded
  · exact absurd (hadded.trans (List.append_nil _)) h.kept
  · unfold ChapterDraft.chapter? at hadded
    split at hadded
    · exact absurd (hadded.trans (List.append_nil _)) h.kept
    · exact ⟨_, hadded, congrArg Nat.cast hnumber⟩

/-! ## Works -/

theorem map_number_settleChapters {dates : DateParser} {now : Moment} {position : Nat}
    {records chapters : List Chapter}
    (h : settleChapters .parsed dates now position records = .ok chapters) :
    chapters.map (·.number) = records.map (·.number) := by
  induction records generalizing position chapters with
  | nil =>
      cases h
      rfl
  | cons record records ih =>
      obtain ⟨time, rest, -, hrest, rfl⟩ := settleChapters_cons_eq_ok h
      rw [List.map_cons, List.map_cons, ih hrest]
      rfl

/-- The parsed numbers of a work are those of the records, once its chapters are back in the order
of the page. -/
theorem map_number_of_finish (hg : g.numbering = .parsed) (h : s.finish g p = .ok work) :
    (readingOrder g work.chapters).map (·.number) = s.chapters.records.map (·.number) := by
  obtain ⟨chapters, hchapters, rfl⟩ := exists_of_finish_eq_ok h
  rw [settledChapters, hg] at hchapters
  have hnumbers := map_number_settleChapters hchapters
  unfold readingOrder at hnumbers ⊢
  split at hnumbers
  · rename_i hreverse
    rw [if_pos hreverse, List.map_reverse]
    rw [List.map_reverse] at hnumbers
    exact List.reverse_eq_iff.2 hnumbers
  · rename_i hreverse
    rw [if_neg hreverse]
    exact hnumbers

/-- Where numbers are parsed, the chapter of an item has the number of its number cell exactly if
this is not zero or no digits of the title say another one. -/
theorem number_of_item_iff (hg : g.numbering = .parsed)
    (hbefore : (initial path).run g p before = .ok s)
    (hitem : KeepsItem g p s name attributes body tag numbers titles o c t)
    (hn : lastNumber? numbers = some n)
    (hwork : extract g p path
      (before ++ (.opened name attributes :: body ++ [.closed tag]) ++ after) = .ok work) :
    (∃ chapter, (readingOrder g work.chapters)[s.chapters.records.length]? = some chapter ∧
      chapter.number = n) ↔ n ≠ 0 ∨ ∀ title ∈ titles, (trailingValue? title).getD 0 = 0 := by
  have hs : Coherent p s := (coherent_initial path).run hbefore
  have ht : Coherent p t := hs.run (hitem.run)
  obtain ⟨u, hu, hfinish⟩ := exists_of_extract_eq_ok hwork
  have hafter : t.run g p after = .ok u := by
    rwa [List.append_assoc, run_append_of_run _ hbefore, run_append_of_run _ (hitem.run)]
      at hu
  obtain ⟨record, hrecords, hnumber⟩ := hitem.record hs
  obtain ⟨later, hlater⟩ := (ht.extends_run hafter).chapters
  have hlisted : ((readingOrder g work.chapters).map (·.number))[s.chapters.records.length]? =
      some (numberOfTexts numbers titles : Int) := by
    rw [map_number_of_finish hg hfinish, ← hlater, hrecords, ← hnumber]
    simp
  rw [List.getElem?_map] at hlisted
  obtain ⟨chapter, hchapter, hvalue⟩ := Option.map_eq_some_iff.1 hlisted
  rw [← numberOfTexts_eq_iff hn]
  constructor
  · rintro ⟨other, hother, hn'⟩
    cases hchapter.symm.trans hother
    exact Int.ofNat.inj (hvalue.symm.trans hn')
  · intro heq
    exact ⟨chapter, hchapter, hvalue.trans (congrArg Nat.cast heq)⟩

private def ordinalSite : Grammar :=
  .lightNovel { id := "t", sourceName := "T", site := "https://e.com/" }

private def ordinalPolicy : Policy where
  now := ⟨⟨2024, 1, 10⟩, 0⟩

private def ordinalFront : List Event :=
  [.opened "div" (.ofList [("class", "eplister")]), .opened "ul" ∅]

private def ordinalBody (number title : String) : List Event := [
  .opened "a" (.ofList [("href", "https://e.com/c/")]),
  .opened "div" (.ofList [("class", "epl-num")]), .text number, .closed "div",
  .opened "div" (.ofList [("class", "epl-title")]), .text title, .closed "div", .closed "a"]

private def ordinalPage (number title : String) : List Event :=
  ordinalFront ++ (.opened "li" ∅ :: ordinalBody number title ++ [.closed "li"]) ++ [.closed "ul"]

private def ordinalStart : State where
  mode := .chapters
  seen := 2

private def ordinalBegun : State where
  mode := .chapters
  chapters := { draft := some {} }
  seen := 3

private def ordinalRead (title : String) (number : Nat) : State where
  mode := .chapters
  chapters := { draft := some { path := some "c/", name := title, number := some number } }
  seen := 11

private def ordinalWork (title : String) (number : Nat) : Work where
  chapters := [{ path := "c/", name := title, number := number }]

private def ordinalEnd (title : String) (number : Nat) : State where
  mode := .chapters
  chapters := { records := (ordinalWork title number).chapters }
  seen := 12

theorem number_of_item_numbered : ∃ chapter : Chapter,
    (readingOrder ordinalSite (ordinalWork "Part 7" 42).chapters)[0]? = some chapter ∧
      chapter.number = 42 := by
  have hbefore : (initial "").run ordinalSite ordinalPolicy ordinalFront = .ok ordinalStart := rfl
  have hitem : KeepsItem ordinalSite ordinalPolicy ordinalStart "li" ∅
      (ordinalBody "Chapter 42" "Part 7") "li" ["Chapter 42"] ["Part 7"]
      ordinalBegun (ordinalRead "Part 7" 42) (ordinalEnd "Part 7" 42) := {
    outside := rfl
    begins := rfl
    inside := .cons rfl rfl (.cons rfl rfl (.cons rfl rfl (.cons rfl rfl (.cons rfl rfl
      (.cons rfl rfl (.cons rfl rfl (.cons rfl rfl (.nil rfl))))))))
    texts := rfl
    step := rfl
    ended := rfl
    kept := by simp [ordinalStart, ordinalEnd, ordinalWork] }
  have hwork : extract ordinalSite ordinalPolicy "" (ordinalPage "Chapter 42" "Part 7") =
      .ok (ordinalWork "Part 7" 42) := rfl
  exact (number_of_item_iff rfl hbefore hitem rfl hwork).2 (.inl (by decide))

/-- The number cell says zero, and the chapter has the number of its title. -/
theorem zeroNumber_yields_to_title :
    ordinalSite.numbering = .parsed ∧
    (initial "").run ordinalSite ordinalPolicy ordinalFront = .ok ordinalStart ∧
    KeepsItem ordinalSite ordinalPolicy ordinalStart "li" ∅
      (ordinalBody "Chapter 0" "Prologue 12") "li" ["Chapter 0"] ["Prologue 12"]
      ordinalBegun (ordinalRead "Prologue 12" 12) (ordinalEnd "Prologue 12" 12) ∧
    lastNumber? ["Chapter 0"] = some 0 ∧
    extract ordinalSite ordinalPolicy "" (ordinalPage "Chapter 0" "Prologue 12") =
      .ok (ordinalWork "Prologue 12" 12) ∧
    ¬∃ chapter : Chapter,
      (readingOrder ordinalSite (ordinalWork "Prologue 12" 12).chapters)[0]? = some chapter ∧
        chapter.number = 0 := by
  refine ⟨rfl, rfl, ?_, rfl, rfl, ?_⟩
  · exact {
      outside := rfl
      begins := rfl
      inside := .cons rfl rfl (.cons rfl rfl (.cons rfl rfl (.cons rfl rfl (.cons rfl rfl
        (.cons rfl rfl (.cons rfl rfl (.cons rfl rfl (.nil rfl))))))))
      texts := rfl
      step := rfl
      ended := rfl
      kept := by simp [ordinalStart, ordinalEnd, ordinalWork] }
  · rintro ⟨chapter, hchapter, hnumber⟩
    obtain rfl := Option.some.inj hchapter
    exact absurd hnumber (by decide)

end State

end Feuilleton
