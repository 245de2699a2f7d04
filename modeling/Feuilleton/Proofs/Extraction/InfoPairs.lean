import Feuilleton.Grammar.Theme
import Feuilleton.Proofs.Extraction.Credits

/-!
# Pairs of an information block

Sites of the theme list author, artist and status as pairs of a label and a value, one beside the
other. Each pair writes its value into the field that its label names, and into no other one: the
field is dropped before the next pair begins.
-/

namespace Feuilleton

structure InfoPair where
  label : String
  value : String
  deriving DecidableEq, Repr

namespace InfoPair

def events (pair : InfoPair) : List Event := [
  .opened "span" ∅,
  .opened "b" ∅, .text pair.label, .closed "b",
  .text pair.value,
  .closed "span"]

def block (pairs : List InfoPair) : List Event :=
  .opened "div" (.ofList [("class", "spe")]) :: (pairs.flatMap events ++ [.closed "div"])

def field? (pair : InfoPair) : Option InfoField :=
  InfoField.ofLabel? pair.label

/-- The values of the pairs whose label names the field. -/
def valuesOf (field : InfoField) (pairs : List InfoPair) : List String :=
  (pairs.filter (·.field? = some field)).map value

@[simp] theorem valuesOf_nil {field : InfoField} : valuesOf field [] = [] := rfl

theorem valuesOf_cons {field : InfoField} (pair : InfoPair) (pairs : List InfoPair) :
    valuesOf field (pair :: pairs) =
      if pair.field? = some field then pair.value :: valuesOf field pairs
      else valuesOf field pairs := by
  unfold valuesOf
  by_cases h : pair.field? = some field <;> simp [h]

end InfoPair

namespace State

open Grammar InfoPair

variable {o : ThemeOptions} {p : Policy} {s : State} {work : WorkDraft} {n : Nat}
  {field : Option InfoField} {pairs : List InfoPair}

/-! ## Inside of a block -/

def inside (work : WorkDraft) (info : InfoState) (n : Nat) (s : State) : State :=
  { s with mode := .info, work, info, seen := n }

/-- Between two pairs no field is active. -/
def betweenPairs : InfoState :=
  { endTag := "div" }

def withinPair (field : Option InfoField) : InfoState :=
  { readingLabel := true, labelTag := some "span", activeField := field, endTag := "div" }

theorem step_pairOpened :
    (s.inside work betweenPairs n).step (lightNovel o) p (.opened "span" ∅) =
      .ok (s.inside work (withinPair none) (n + 1)) := by
  have himage : anyHolds (lightNovel o).cover.image "span" ∅ = false := rfl
  simp only [step, stepOpened, captureCover_of_not_image himage]
  rfl

theorem step_labelOpened : (s.inside work (withinPair field) n).step (lightNovel o) p
    (.opened "b" ∅) = .ok (s.inside work (withinPair field) (n + 1)) := by
  have himage : anyHolds (lightNovel o).cover.image "b" ∅ = false := rfl
  simp only [step, stepOpened, captureCover_of_not_image himage]
  rfl

theorem step_labelClosed : (s.inside work (withinPair field) n).step (lightNovel o) p
    (.closed "b") = .ok (s.inside work (withinPair field) (n + 1)) := rfl

/-- Every text of a pair is a value first and a label afterwards. -/
theorem step_pairText (content : String) :
    (s.inside work (withinPair field) n).step (lightNovel o) p (.text content) =
      .ok (s.inside (assignInfo content work field)
        (withinPair (InfoField.ofLabel? content <|> field)) (n + 1)) := rfl

theorem isEmpty_append_personText (person content : String) :
    (person ++ personText content).isEmpty = false := by
  simp [Bool.eq_false_iff, personText_ne_empty]

/-- Once a value was read, its field is captured, and the end of the pair drops it. -/
theorem step_pairClosed (value : String) :
    (s.inside (assignInfo value work field) (withinPair field) n).step (lightNovel o) p
      (.closed "span") = .ok (s.inside (assignInfo value work field) betweenPairs (n + 1)) := by
  rcases field with _ | _ | _ | _
  · rfl
  · simp [step, count, stepClosed, inside, withinPair, closeInfo, fieldCaptured, assignInfo,
      isEmpty_append_personText, betweenPairs]
  · simp [step, count, stepClosed, inside, withinPair, closeInfo, fieldCaptured, assignInfo,
      isEmpty_append_personText, betweenPairs]
  · rfl

def assignPair (work : WorkDraft) (pair : InfoPair) : WorkDraft :=
  assignInfo pair.value work pair.field?

theorem run_pair (pair : InfoPair) (hvalue : InfoField.ofLabel? pair.value = none) :
    (s.inside work betweenPairs n).run (lightNovel o) p pair.events =
      .ok (s.inside (assignPair work pair) betweenPairs (n + 6)) := by
  have hlabel : assignInfo pair.label work none = work := rfl
  have hfield : (InfoField.ofLabel? pair.label <|> none) = pair.field? := by
    simp [InfoPair.field?]
  have hkept : (InfoField.ofLabel? pair.value <|> pair.field?) = pair.field? := by
    simp [hvalue]
  rw [InfoPair.events, run_cons_of_step _ step_pairOpened, run_cons_of_step _ step_labelOpened,
    run_cons_of_step _ (step_pairText pair.label), hlabel, hfield,
    run_cons_of_step _ step_labelClosed, run_cons_of_step _ (step_pairText pair.value), hkept,
    run_cons_of_step _ (step_pairClosed pair.value), run_nil]
  rw [assignPair]

/-! ## All pairs -/

theorem run_pairs (hvalues : ∀ pair ∈ pairs, InfoField.ofLabel? pair.value = none) :
    (s.inside work betweenPairs n).run (lightNovel o) p (pairs.flatMap events) =
      .ok (s.inside (pairs.foldl assignPair work) betweenPairs (n + 6 * pairs.length)) := by
  induction pairs generalizing work n with
  | nil => rfl
  | cons pair pairs ih =>
      obtain ⟨hvalue, hrest⟩ := List.forall_mem_cons.1 hvalues
      have hcount : n + 6 + 6 * pairs.length = n + 6 * (pairs.length + 1) := by omega
      rw [List.flatMap_cons, run_append_of_run _ (run_pair pair hvalue), ih hrest,
        List.length_cons, hcount, List.foldl_cons]

theorem foldl_assignPair : pairs.foldl assignPair work = { work with
    author := work.author ++ String.join ((valuesOf .author pairs).map personText)
    artist := work.artist ++ String.join ((valuesOf .artist pairs).map personText)
    status := ((valuesOf .status pairs).getLast?.map Status.ofText).or work.status } := by
  induction pairs generalizing work with
  | nil => simp
  | cons pair pairs ih =>
      rw [List.foldl_cons, ih]
      unfold assignPair
      cases hfield : pair.field? with
      | none => simp [valuesOf_cons, hfield, assignInfo]
      | some field =>
          cases field with
          | author => simp [valuesOf_cons, hfield, assignInfo, String.append_assoc]
          | artist => simp [valuesOf_cons, hfield, assignInfo, String.append_assoc]
          | status =>
              simp only [valuesOf_cons, hfield, assignInfo, reduceCtorEq, ↓reduceIte,
                Option.some.injEq, List.getLast?_cons]
              cases (valuesOf .status pairs).getLast? <;> rfl

/-- Where no value is itself a label, a block of pairs writes the values whose labels name the
author, the artist or the status, and leaves the rest of the work as it was. -/
theorem run_infoPairs (hidle : s.mode = .idle)
    (hvalues : ∀ pair ∈ pairs, InfoField.ofLabel? pair.value = none) :
    s.run (lightNovel o) p (InfoPair.block pairs) = .ok { s with
      mode := .idle
      work := { s.work with
        author := Text.trim
          (s.work.author ++ String.join ((valuesOf .author pairs).map personText))
        artist := Text.trim
          (s.work.artist ++ String.join ((valuesOf .artist pairs).map personText))
        status := ((valuesOf .status pairs).getLast?.map Status.ofText).or s.work.status }
      info := betweenPairs
      seen := s.seen + (6 * pairs.length + 2) } := by
  have hopened : s.step (lightNovel o) p (.opened "div" (.ofList [("class", "spe")])) =
      .ok (s.inside s.work betweenPairs (s.seen + 1)) := by
    have himage : anyHolds (lightNovel o).cover.image "div" (.ofList [("class", "spe")]) = false :=
      rfl
    simp only [step, stepOpened, captureCover_of_not_image himage]
    have hmode : s.count.mode = .idle := hidle
    rw [hmode]
    rfl
  have hcount : s.seen + 1 + 6 * pairs.length + 1 = s.seen + (6 * pairs.length + 2) := by omega
  rw [InfoPair.block, run_cons_of_step _ hopened, run_append_of_run _ (run_pairs hvalues),
    foldl_assignPair, ← hcount]
  rfl

/-- Two authors, one of them without a name, three states of the work, and a year. -/
private def sixPairs : List InfoPair := [
  ⟨"Author:", " Jane Roe, "⟩, ⟨"Status:", "Ongoing"⟩, ⟨"Year:", "2020"⟩, ⟨"Auteur", ""⟩,
  ⟨"Statut", "soon"⟩, ⟨"Durum", " Completo: "⟩]

/-- The state after an earlier block. -/
private def afterFirstBlock : State :=
  { initial "/n" with
    work := { path := "/n", author := "Ann,", artist := "Bob", status := some .onHiatus }
    seen := 20 }

theorem run_infoPairs_sixPairs :
    afterFirstBlock.run (lightNovel { id := "t", sourceName := "T", site := "https://e.com/" })
        { now := ⟨⟨2024, 1, 10⟩, 43200⟩ } (InfoPair.block sixPairs) =
      .ok { afterFirstBlock with
        work := { path := "/n", author := "Ann, Jane Roe, Unknown", artist := "Bob",
                  status := some .completed }
        seen := 58 } := by
  have hvalues : ∀ pair ∈ sixPairs, InfoField.ofLabel? pair.value = none := by decide +kernel
  rw [run_infoPairs rfl hvalues]
  exact congrArg Except.ok (by decide +kernel)

end State

end Feuilleton
