import Feuilleton.Extraction.Outcome
import Feuilleton.Proofs.Extraction.Coherence
import Feuilleton.Proofs.Extraction.ListItem
import Feuilleton.Proofs.Extraction.Quiet

/-!
# Reading chapter lists of the theme

A chapter list of the theme adds exactly the chapters for which its items stand, and leaves the
state idle.
-/

namespace Feuilleton.State

open Grammar ListItem

variable {o : ThemeOptions} {p : Policy} {s : State} {c c₁ c₂ : ChapterState}
  {draft : ChapterDraft}

/-! ## Readings of the chapter state -/

/-- The events turn the chapter state `c` of `s` into `c₁`; beside it only the counter changes. -/
def Reads (g : Grammar) (p : Policy) (s : State) (c : ChapterState) (events : List Event)
    (c₁ : ChapterState) : Prop :=
  ∀ n, ∃ m, ({ s with chapters := c, seen := n } : State).run g p events =
    .ok { s with chapters := c₁, seen := m }

variable {g : Grammar} {first rest : List Event}

theorem Reads.nil : Reads g p s c [] c := fun n => ⟨n, rfl⟩

theorem Reads.append (hfirst : Reads g p s c first c₁) (hrest : Reads g p s c₁ rest c₂) :
    Reads g p s c (first ++ rest) c₂ := by
  intro n
  obtain ⟨m, hm⟩ := hfirst n
  obtain ⟨l, hl⟩ := hrest m
  exact ⟨l, by rw [run_append_of_run rest hm, hl]⟩

theorem Reads.cons {event : Event} (hevent : Reads g p s c [event] c₁)
    (hrest : Reads g p s c₁ rest c₂) : Reads g p s c (event :: rest) c₂ :=
  hevent.append hrest

/-! ## Tags -/

theorem reads_opened {name : String} {attributes : Attributes} (hm : s.mode = .chapters)
    (himage : anyHolds g.cover.image name attributes = false)
    (h : ∀ n, ({ s with chapters := c, seen := n } : State).openChapters g name attributes =
      { s with chapters := c₁, seen := n }) :
    Reads g p s c [.opened name attributes] c₁ := by
  intro n
  refine ⟨n + 1, ?_⟩
  have hstep : ({ s with chapters := c, seen := n } : State).step g p (.opened name attributes) =
      .ok { s with chapters := c₁, seen := n + 1 } := by
    have hopen := h (n + 1)
    simp only [hm] at hopen
    simp only [step, count, stepOpened, captureCover_of_not_image himage, hm, hopen]
  rw [run_cons_of_step [] hstep, run_nil]

theorem reads_closed {name : String} (hm : s.mode = .chapters)
    (h : ∀ n, ({ s with chapters := c, seen := n } : State).closeChapters g p name =
      { s with chapters := c₁, seen := n }) :
    Reads g p s c [.closed name] c₁ := by
  intro n
  refine ⟨n + 1, ?_⟩
  have hstep : ({ s with chapters := c, seen := n } : State).step g p (.closed name) =
      .ok { s with chapters := c₁, seen := n + 1 } := by
    have hclose := h (n + 1)
    simp only [hm] at hclose
    simp only [step, count, stepClosed, hm, hclose]
  rw [run_cons_of_step [] hstep, run_nil]

theorem reads_text {content : String} {cell : Cell} (hm : s.mode = .chapters)
    (hdraft : c.draft = some draft) (hcell : c.activeCell = some cell)
    (h : cellText g s.work.name content c draft cell = .ok c₁) :
    Reads g p s c [.text content] c₁ := by
  intro n
  refine ⟨n + 1, ?_⟩
  have hstep : ({ s with chapters := c, seen := n } : State).step g p (.text content) =
      .ok { s with chapters := c₁, seen := n + 1 } := by
    simp only [step, count, stepText, hm, textChapters, hdraft, hcell, h]
    rfl
  rw [run_cons_of_step [] hstep, run_nil]

/-! ## Cells -/

theorem cellOf?_theme (cell : Cell) :
    cellOf? (lightNovel o) "div" (.ofList [("class", cell.className)]) = some cell := by
  cases cell <;> rfl

theorem not_image_theme_cell (cell : Cell) :
    anyHolds (lightNovel o).cover.image "div" (.ofList [("class", cell.className)]) = false := by
  cases cell <;> rfl

theorem reads_cell (cell : Cell) (content : String) (hm : s.mode = .chapters)
    (hdraft : c.draft = some draft)
    (h : cellText (lightNovel o) s.work.name content { c with activeCell := some cell } draft
      cell = .ok c₁) :
    Reads (lightNovel o) p s c (cell.events (some content)) { c₁ with activeCell := none } := by
  have hopened : Reads (lightNovel o) p s c
      [.opened "div" (.ofList [("class", cell.className)])] { c with activeCell := some cell } := by
    refine reads_opened hm (not_image_theme_cell cell) fun n => ?_
    have hlink : ¬("div" = (lightNovel o).chapters.linkTag ∧ draft.path.isNone) := by
      rintro ⟨htag, -⟩
      exact absurd htag (show "div" ≠ "a" by decide)
    simp only [openChapters, hdraft, hlink, ↓reduceIte, cellOf?_theme]
  have htext : Reads (lightNovel o) p s { c with activeCell := some cell } [.text content] c₁ :=
    reads_text hm hdraft rfl h
  obtain ⟨draft₁, -, hc₁⟩ := cellText_eq_ok (c := { c with activeCell := some cell }) hdraft h
  have hclosed : Reads (lightNovel o) p s c₁ [.closed "div"] { c₁ with activeCell := none } := by
    refine reads_closed hm fun n => ?_
    rw [hc₁]
    simp [closeChapters]
  exact hopened.cons (htext.cons hclosed)

theorem trailingNumber?_eq_ok {content : String}
    (h : (trailingDigits content).length ≤ Text.maxDigits) :
    trailingNumber? content = .ok (trailingValue? content) := by
  unfold trailingNumber? trailingValue?
  unfold trailingDigits at h ⊢
  cases hd : Text.lastDigits (Text.dropEndWhile Text.isBlank content.toList) with
  | nil => rfl
  | cons digit digits =>
      rw [hd] at h
      simp only [Text.readNumeral, if_pos h]
      rfl

theorem takeNumber_eq {content : String}
    (h : (trailingDigits content).length ≤ Text.maxDigits) :
    takeNumber content draft =
      .ok { draft with number := (trailingValue? content).or draft.number } := by
  rw [takeNumber, trailingNumber?_eq_ok h]
  cases trailingValue? content <;> rfl

theorem latestVerdict_number {content : String} {paid seen : Bool} :
    LockCell.latestVerdict paid seen [.number content] =
      if Text.occursIn defaultLockGlyph content then true else if seen then false else paid := by
  simp only [LockCell.latestVerdict, LockCell.verdict, List.any_nil, Bool.or_false]
  split
  · rfl
  · split <;> rfl

theorem reads_number (content? : Option String) (hm : s.mode = .chapters)
    (hdraft : c.draft = some draft) (hcell : c.activeCell = none)
    (hfits : ∀ content, content? = some content →
      (trailingDigits content).length ≤ Text.maxDigits) :
    Reads (lightNovel o) p s c (Cell.number.events content?) { c with
      draft := some { draft with number := (content?.bind trailingValue?).or draft.number }
      paid := LockCell.latestVerdict c.paid c.lockMarkerSeen (content?.map .number).toList
      lockMarkerSeen :=
        c.lockMarkerSeen || (content?.map LockCell.number).toList.any LockCell.isMarked } := by
  cases content? with
  | none =>
      have hc : { c with draft := some draft } = c := by rw [← hdraft]
      simpa [Cell.events, LockCell.latestVerdict, hc] using Reads.nil
  | some content =>
      have htext : cellText (lightNovel o) s.work.name content
          { c with activeCell := some .number } draft .number = .ok { c with
            activeCell := some .number
            draft := some { draft with number := (trailingValue? content).or draft.number }
            paid := LockCell.latestVerdict c.paid c.lockMarkerSeen [.number content]
            lockMarkerSeen := c.lockMarkerSeen || (LockCell.number content).isMarked } := by
        simp only [cellText, numberText, takeNumber_eq (hfits content rfl), latestVerdict_number]
        rfl
      have hread := reads_cell (p := p) .number content hm hdraft htext
      simpa [hcell] using hread

/-- The number of a draft behind a title; its digits count only for want of others. -/
def numberBehindTitle (number title? : Option Nat) : Option Nat :=
  if number.getD 0 = 0 then title?.or number else number

theorem reads_title (content? : Option String) (hm : s.mode = .chapters)
    (hdraft : c.draft = some draft) (hcell : c.activeCell = none)
    (hfits : ∀ content, content? = some content →
      (trailingDigits content).length ≤ Text.maxDigits) :
    Reads (lightNovel o) p s c (Cell.title.events content?) { c with
      draft := some { draft with
        name := content?.elim draft.name (stripWorkName · s.work.name)
        number := numberBehindTitle draft.number (content?.bind trailingValue?) } } := by
  cases content? with
  | none =>
      have hnumber : numberBehindTitle draft.number none = draft.number := by
        simp [numberBehindTitle]
      have hc : { c with draft := some draft } = c := by rw [← hdraft]
      simpa [Cell.events, hnumber, hc] using Reads.nil
  | some content =>
      have htext : cellText (lightNovel o) s.work.name content
          { c with activeCell := some .title } draft .title = .ok { c with
            activeCell := some .title
            draft := some { draft with
              name := stripWorkName content s.work.name
              number := numberBehindTitle draft.number (trailingValue? content) } } := by
        simp only [cellText, titleText, takeNumber_eq (hfits content rfl), numberBehindTitle]
        split <;> rfl
      have hread := reads_cell (p := p) .title content hm hdraft htext
      simpa [hcell] using hread

theorem reads_date (content? : Option String) (hm : s.mode = .chapters)
    (hdraft : c.draft = some draft) (hcell : c.activeCell = none) :
    Reads (lightNovel o) p s c (Cell.date.events content?) { c with
      draft := some { draft with releaseTime := content?.or draft.releaseTime } } := by
  cases content? with
  | none =>
      have hc : { c with draft := some draft } = c := by rw [← hdraft]
      simpa [Cell.events, hc] using Reads.nil
  | some content =>
      have hread := reads_cell (o := o) (p := p) .date content hm hdraft rfl
      simpa [hcell] using hread

theorem reads_price (content? : Option String) (hm : s.mode = .chapters)
    (hdraft : c.draft = some draft) (hcell : c.activeCell = none) :
    Reads (lightNovel o) p s c (Cell.price.events content?) { c with
      paid := LockCell.latestVerdict c.paid c.lockMarkerSeen (content?.map .price).toList } := by
  cases content? with
  | none => exact Reads.nil
  | some content =>
      have hread := reads_cell (o := o) (p := p) .price content hm hdraft rfl
      simpa [hcell, LockCell.latestVerdict, LockCell.verdict] using hread

/-! ## Items -/

/-- The draft that the cells of an item leave. -/
def itemDraft (workName : String) (path : Option String) (item : ListItem) : ChapterDraft where
  path := path
  name := item.name workName
  releaseTime := item.date
  number := numberBehindTitle (item.number.bind trailingValue?) (item.title.bind trailingValue?)

theorem reverse_lockCells (item : ListItem) :
    item.lockCells.reverse =
      (item.price.map LockCell.price).toList ++ (item.number.map LockCell.number).toList := by
  unfold lockCells
  cases item.number <;> cases item.price <;> rfl

theorem any_isMarked_lockCells (item : ListItem) :
    item.lockCells.any LockCell.isMarked =
      (item.number.map LockCell.number).toList.any LockCell.isMarked := by
  unfold lockCells
  cases item.price with
  | none => simp
  | some price => simp [LockCell.isMarked]

theorem reads_cells (item : ListItem) (path : Option String) (hm : s.mode = .chapters)
    (hdraft : c.draft = some { path }) (hcell : c.activeCell = none) (hfits : item.NumeralsFit) :
    Reads (lightNovel o) p s c item.cells { c with
      draft := some (itemDraft s.work.name path item)
      paid := LockCell.latestVerdict c.paid c.lockMarkerSeen item.lockCells.reverse
      lockMarkerSeen := c.lockMarkerSeen || item.lockCells.any LockCell.isMarked } := by
  have hnumber := reads_number (o := o) (p := p) item.number hm hdraft hcell
    fun content h => hfits content (.inl h)
  have htitle := hnumber.append (reads_title item.title hm rfl hcell
    fun content h => hfits content (.inr h))
  have hdate := htitle.append (reads_date item.date hm rfl hcell)
  have hprice := hdate.append (reads_price item.price hm rfl hcell)
  have hname : item.title.elim "" (stripWorkName · s.work.name) = item.name s.work.name := by
    unfold ListItem.name
    cases item.title <;> rfl
  simp only [List.append_assoc, hname, Option.or_none] at hprice
  rw [reverse_lockCells, LockCell.latestVerdict_append, any_isMarked_lockCells]
  exact hprice

theorem chapter?_itemDraft {site workName : String} {locked : Bool} {item : ListItem}
    {path : Option String} (hpath : path.getD "" = item.path site) :
    (itemDraft workName path item).chapter? (lightNovel o) locked =
      item.chapter? site workName false locked := by
  have hordinal : (numberBehindTitle (item.number.bind trailingValue?)
      (item.title.bind trailingValue?)).getD 0 = item.ordinal := by
    unfold numberBehindTitle ordinal
    split
    · rename_i hzero
      rw [if_pos hzero]
      cases item.title.bind trailingValue? with
      | none => exact hzero
      | some n => rfl
    · rename_i hzero
      rw [if_neg hzero]
  unfold ChapterDraft.chapter? ListItem.chapter?
  simp only [itemDraft, hpath, hordinal]
  by_cases hempty : item.path site = ""
  · simp [hempty]
  · simp [hempty]
    rfl

/-- The end of an item adds the chapter for which the item stands. -/
theorem finishChapter_itemDraft {site : String} {item : ListItem} {path : Option String}
    (hpath : path.getD "" = item.path site) :
    ∃ hidden, finishChapter (lightNovel o) p (itemDraft s.work.name path item) c = { c with
      draft := none
      activeCell := none
      hidden
      records := c.records ++
        (item.chapter? site s.work.name p.hideLocked c.paid).toList } := by
  have hlocks : c.locks (itemDraft s.work.name path item) = c.paid := by
    simp [ChapterState.locks, itemDraft]
  by_cases hhidden : c.paid = true ∧ p.hideLocked = true
  · refine ⟨c.hidden + 1, ?_⟩
    rw [finishChapter_of_hidden (hlocks.trans hhidden.1) hhidden.2]
    simp [ListItem.chapter?, hhidden]
  · refine ⟨c.hidden, ?_⟩
    have hshown : c.locks (itemDraft s.work.name path item) = false ∨ p.hideLocked = false := by
      rw [hlocks]
      cases hpaid : c.paid with
      | false => exact .inl rfl
      | true => exact .inr (by simpa [hpaid] using hhidden)
    rw [finishChapter_of_shown hshown, hlocks, chapter?_itemDraft hpath]
    simp [ListItem.chapter?, hhidden]

/-- The inside of an item, with its link around the cells if it has one. -/
theorem reads_itemBody (item : ListItem) (hm : s.mode = .chapters) (hdraft : c.draft = some {})
    (hcell : c.activeCell = none) (hfits : item.NumeralsFit) :
    ∃ path, path.getD "" = item.path o.site ∧
      Reads (lightNovel o) p s c
        (match item.href with
        | none => item.cells
        | some href => .opened "a" (.ofList [("href", href)]) :: (item.cells ++ [.closed "a"]))
        { c with
          draft := some (itemDraft s.work.name path item)
          paid := LockCell.latestVerdict c.paid c.lockMarkerSeen item.lockCells.reverse
          lockMarkerSeen := c.lockMarkerSeen || item.lockCells.any LockCell.isMarked } := by
  cases hhref : item.href with
  | none =>
      exact ⟨none, by simp [ListItem.path, hhref], reads_cells item none hm hdraft hcell hfits⟩
  | some href =>
      let path := Text.trim (Text.eraseFirst o.site href)
      refine ⟨some path, by simp [ListItem.path, hhref, path], ?_⟩
      have hopened : Reads (lightNovel o) p s c [.opened "a" (.ofList [("href", href)])]
          { c with draft := some { path := some path } } := by
        refine reads_opened hm rfl fun n => ?_
        simp only [openChapters, hdraft]
        rfl
      have hcells := reads_cells (o := o) (p := p)
        (c := { c with draft := some { path := some path } }) item (some path) hm rfl hcell hfits
      refine hopened.cons (hcells.append (reads_closed hm fun n => ?_))
      simp [closeChapters, hcell, itemDraft]

/-- An item adds its chapter; its lock cells are all that the items behind it see of it. -/
theorem reads_item {item : ListItem} (hm : s.mode = .chapters) (hdraft : c.draft = none)
    (hfits : item.NumeralsFit) :
    ∃ c₁ : ChapterState, Reads (lightNovel o) p s c item.events c₁ ∧
      c₁.draft = none ∧ c₁.endTag = c.endTag ∧
      c₁.paid = LockCell.latestVerdict c.paid c.lockMarkerSeen item.lockCells.reverse ∧
      c₁.lockMarkerSeen = (c.lockMarkerSeen || item.lockCells.any LockCell.isMarked) ∧
      c₁.records = c.records ++
        (item.chapter? o.site s.work.name p.hideLocked c₁.paid).toList := by
  have hopened : Reads (lightNovel o) p s c [.opened "li" ∅]
      { c with draft := some {}, activeCell := none } := by
    refine reads_opened hm rfl fun n => ?_
    simp only [openChapters, hdraft]
    rfl
  obtain ⟨path, hpath, hbody⟩ := reads_itemBody (o := o) (p := p)
    (c := { c with draft := some {}, activeCell := none }) item hm rfl rfl hfits
  let read : ChapterState := { c with
    draft := some (itemDraft s.work.name path item)
    activeCell := none
    paid := LockCell.latestVerdict c.paid c.lockMarkerSeen item.lockCells.reverse
    lockMarkerSeen := c.lockMarkerSeen || item.lockCells.any LockCell.isMarked }
  obtain ⟨hidden, hfinish⟩ := finishChapter_itemDraft (o := o) (p := p) (s := s) (c := read) hpath
  have hclosed : Reads (lightNovel o) p s read [.closed "li"]
      (finishChapter (lightNovel o) p (itemDraft s.work.name path item) read) := by
    refine reads_closed hm fun n => ?_
    have htag : "li" = (itemDraft s.work.name path item).itemTag := rfl
    simp only [closeChapters, read, Option.isSome_none, Bool.false_eq_true, ↓reduceIte, ← htag]
  refine ⟨_, hopened.cons (hbody.append hclosed), ?_⟩
  rw [hfinish]
  exact ⟨rfl, rfl, rfl, rfl, rfl⟩

/-! ## Lists -/

/-- Items behind `earlier` add their chapters. The induction is on the items; the lock cells that
were read so far carry the two flags. -/
theorem reads_items (paid seen : Bool) (earlier items : List ListItem) (hm : s.mode = .chapters)
    (hdraft : c.draft = none)
    (hpaid : c.paid = LockCell.latestVerdict paid seen (earlier.flatMap lockCells).reverse)
    (hseen : c.lockMarkerSeen = (seen || (earlier.flatMap lockCells).any LockCell.isMarked))
    (hfits : ∀ item ∈ items, item.NumeralsFit) :
    ∃ c₁ : ChapterState, Reads (lightNovel o) p s c (items.flatMap events) c₁ ∧
      c₁.draft = none ∧ c₁.endTag = c.endTag ∧
      c₁.records = c.records ++
        ListItem.chapters o.site s.work.name p.hideLocked paid seen earlier items := by
  induction items generalizing c earlier with
  | nil => exact ⟨c, .nil, hdraft, rfl, by simp [ListItem.chapters]⟩
  | cons item items ih =>
      obtain ⟨c₁, hitem, hdraft₁, hend₁, hpaid₁, hseen₁, hrecords₁⟩ :=
        reads_item (o := o) (p := p) hm hdraft (hfits item List.mem_cons_self)
      have hverdict : c₁.paid =
          LockCell.latestVerdict paid seen ((earlier ++ [item]).flatMap lockCells).reverse := by
        rw [hpaid₁, hpaid, hseen, List.flatMap_append, List.reverse_append,
          LockCell.latestVerdict_append, List.any_reverse]
        simp
      have hmarked : c₁.lockMarkerSeen =
          (seen || ((earlier ++ [item]).flatMap lockCells).any LockCell.isMarked) := by
        rw [hseen₁, hseen, List.flatMap_append, List.any_append, Bool.or_assoc]
        simp
      obtain ⟨c₂, hitems, hdraft₂, hend₂, hrecords₂⟩ :=
        ih (earlier ++ [item]) hdraft₁ hverdict hmarked
          fun item hitem => hfits item (List.mem_cons_of_mem _ hitem)
      refine ⟨c₂, ?_, hdraft₂, hend₂.trans hend₁, ?_⟩
      · rw [List.flatMap_cons]
        exact hitem.append hitems
      · rw [hrecords₂, hrecords₁, hverdict, ListItem.chapters, List.append_assoc]

theorem step_openList (hidle : s.mode = .idle) :
    s.step (lightNovel o) p (.opened "div" (.ofList [("class", "eplister")])) = .ok { s with
      mode := .chapters
      chapters := { s.chapters with endTag := "ul", activeCell := none }
      seen := s.seen + 1 } := by
  have himage : anyHolds (lightNovel o).cover.image "div" (.ofList [("class", "eplister")]) =
      false := rfl
  simp only [step, count, stepOpened, captureCover_of_not_image himage, hidle]
  rfl

/-- A chapter list adds the chapters of its items, and the state is idle again behind it. -/
theorem records_of_run_listEvents (items : List ListItem) (hs : Reachable (lightNovel o) p s)
    (hidle : s.mode = .idle) (hfits : ∀ item ∈ items, item.NumeralsFit) :
    ∃ t, s.run (lightNovel o) p (listEvents items) = .ok t ∧ t.mode = .idle ∧
      t.chapters.draft = none ∧
      t.chapters.records = s.chapters.records ++
        ListItem.chapters o.site s.work.name p.hideLocked s.chapters.paid
          s.chapters.lockMarkerSeen [] items := by
  have hdraft : s.chapters.draft = none := hs.coherent.draft_eq_none (by simp [hidle])
  let inList : State := { s with mode := .chapters }
  let c : ChapterState := { s.chapters with endTag := "ul", activeCell := none }
  have hul : Reads (lightNovel o) p inList c [.opened "ul" ∅] c := by
    refine reads_opened rfl rfl fun n => ?_
    simp only [openChapters, c, hdraft]
    rfl
  obtain ⟨c₁, hitems, hdraft₁, hend₁, hrecords₁⟩ :=
    reads_items (o := o) (p := p) (s := inList) (c := c) s.chapters.paid s.chapters.lockMarkerSeen
      [] items rfl hdraft rfl (by simp [c]) hfits
  obtain ⟨n, hread⟩ := hul.cons hitems (s.seen + 1)
  have hcloseList : ({ inList with chapters := c₁, seen := n } : State).run (lightNovel o) p
      [.closed "ul", .closed "div"] =
        .ok { s with chapters := c₁, mode := .idle, seen := n + 2 } := by
    simp only [run_cons, step, count, stepClosed, inList, closeChapters, hdraft₁, hend₁]
    rfl
  refine ⟨{ s with chapters := c₁, mode := .idle, seen := n + 2 }, ?_, rfl, hdraft₁, hrecords₁⟩
  rw [listEvents, run_cons_of_step _ (step_openList hidle), ← List.cons_append]
  exact (run_append_of_run _ hread).trans hcloseList

private def mixedSite : ThemeOptions where
  id := ""
  sourceName := ""
  site := "https://e.com/"

private def mixedPolicy : Policy where
  hideLocked := true
  now := ⟨⟨2024, 1, 10⟩, 0⟩

private def titleEvents : List Event := [
  .opened "h1" (.ofList [("class", "entry-title")]), .text "My Novel", .closed "h1"]

/-- Behind the title of the work. -/
private def titledState : State where
  work := { name := "My Novel" }
  fieldEndTag := some "h1"
  fieldText := "My Novel"
  seen := 3

/-- A glyph hides the first item, and the item without a link ends its reach; a price hides the
fourth and, for want of another, the fifth. Two titles begin with the name of the work. -/
private def mixedItems : List ListItem := [
  { href := some "https://e.com/c1/", number := some "🔒 Ch. 1", title := some "One" },
  { number := some "Ch. 2" },
  { href := some " https://e.com/c3/ ", number := some "Ch. 0", title := some "My Novel Part 3"
    date := some "January 1, 2024" },
  { href := some "https://e.com/c4/", number := some "Ch. 4", price := some "5 Coins" },
  { href := some "https://e.com/c5/", title := some "Five" },
  { href := some "https://e.com/c6/", number := some "Vol. 2 Ch. 6", title := some "My Novel"
    price := some "Free" }]

theorem records_of_run_mixedItems :
    Reachable (lightNovel mixedSite) mixedPolicy titledState ∧
    ∃ t, titledState.run (lightNovel mixedSite) mixedPolicy (listEvents mixedItems) = .ok t ∧
      t.chapters.records = [
        { path := "c3/", name := "Part 3", releaseTime := some "January 1, 2024", number := 3 },
        { path := "c6/", name := "My Novel", number := 6 }] := by
  have htitle : (initial "").run (lightNovel mixedSite) mixedPolicy titleEvents =
      .ok titledState := rfl
  have hs := Reachable.of_run htitle
  obtain ⟨t, hrun, -, -, hrecords⟩ := records_of_run_listEvents (o := mixedSite)
    (p := mixedPolicy) mixedItems hs rfl (by decide)
  exact ⟨hs, t, hrun, hrecords.trans (by decide +kernel)⟩

end Feuilleton.State
