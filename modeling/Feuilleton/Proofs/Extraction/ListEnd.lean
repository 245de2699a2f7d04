import Feuilleton.Proofs.Extraction.Context
import Feuilleton.Proofs.Extraction.HiddenOutcome
import Feuilleton.Proofs.Extraction.ListCourse
import Feuilleton.Proofs.Extraction.ThemeTags

/-!
# The end of a chapter list

A chapter list ends with a tag of its own and not with its element. An element that does not contain
this tag leaves its list open, and the items that follow it on the page are taken for chapters up to
the next such tag. Where no item follows in between, the page has no chapters.
-/

namespace Feuilleton

/-- No item begins in front of the first close tag of that name. -/
def EndsBeforeItem (g : Grammar) (endTag : String) : List Event → Prop
  | [] => True
  | .opened name attributes :: rest =>
      anyHolds g.chapters.item name attributes = false ∧ EndsBeforeItem g endTag rest
  | .text _ :: rest => EndsBeforeItem g endTag rest
  | .closed name :: rest => name = endTag ∨ EndsBeforeItem g endTag rest

instance decidableEndsBeforeItem (g : Grammar) (endTag : String) :
    (events : List Event) → Decidable (EndsBeforeItem g endTag events)
  | [] => isTrue trivial
  | .opened _ _ :: rest =>
      have := decidableEndsBeforeItem g endTag rest
      inferInstanceAs (Decidable (_ ∧ _))
  | .text _ :: rest => decidableEndsBeforeItem g endTag rest
  | .closed _ :: rest =>
      have := decidableEndsBeforeItem g endTag rest
      inferInstanceAs (Decidable (_ ∨ _))

/-- Each list that may begin among the events ends before an item begins. -/
def ListsEnd (g : Grammar) : List Event → Prop
  | [] => True
  | .opened name attributes :: rest =>
      (anyHolds g.chapters.container name attributes = true →
        EndsBeforeItem g (Context.chaptersEnd g name) rest) ∧ ListsEnd g rest
  | .text _ :: rest => ListsEnd g rest
  | .closed _ :: rest => ListsEnd g rest

variable {g : Grammar} {p : Policy} {event : Event} {events : List Event} {endTag : String}

theorem ListsEnd.tail (h : ListsEnd g (event :: events)) : ListsEnd g events := by
  cases event with
  | opened name attributes => exact h.2
  | text content => exact h
  | closed name => exact h

theorem endsBeforeItem_append {front back : List Event}
    (hitems : ∀ name attributes, .opened name attributes ∈ front →
      anyHolds g.chapters.item name attributes = false)
    (hends : .closed endTag ∉ front → EndsBeforeItem g endTag back) :
    EndsBeforeItem g endTag (front ++ back) := by
  induction front with
  | nil => exact hends List.not_mem_nil
  | cons event front ih =>
      have hrest := ih fun name attributes hmem =>
        hitems name attributes (List.mem_cons_of_mem event hmem)
      cases event with
      | opened name attributes =>
          exact ⟨hitems name attributes List.mem_cons_self, hrest fun h => hends (by simp [h])⟩
      | text content => exact hrest fun h => hends (by simp [h])
      | closed name =>
          by_cases hname : name = endTag
          · exact .inl hname
          · exact .inr (hrest fun h => hends (by simp [h, Ne.symm hname]))

namespace State

open Context

variable {s t : State} {name content : String} {attributes : Attributes}

/-! ## Steps -/

/-- The list is read neither in the middle of an item nor up to one. -/
structure Itemless (g : Grammar) (events : List Event) (s : State) : Prop where
  draft : s.chapters.draft = none
  ends : s.mode = .chapters → EndsBeforeItem g s.chapters.endTag events

theorem openChapters_of_not_item (hdraft : s.chapters.draft = none)
    (hitem : anyHolds g.chapters.item name attributes = false) :
    s.openChapters g name attributes = s := by
  simp [openChapters, hdraft, openItem, hitem]

/-- In the idle mode an open tag begins the list, or neither the list nor an item of it. -/
theorem cases_of_idle_opened (name : String) (attributes : Attributes) (hm : s.mode = .idle) :
    (anyHolds g.chapters.container name attributes = true ∧
      (s.stepOpened g name attributes).chapters = (s.enterChapters g name).chapters) ∨
    ((s.stepOpened g name attributes).mode ≠ .chapters ∧
      (s.stepOpened g name attributes).chapters = s.chapters) := by
  have hchapters := chapters_stepOpened (g := g) (s := s) name attributes
  rw [hm] at hchapters
  have hpart := part?_stepOpened (g := g) name attributes hm
  by_cases hlist : partOf? g name attributes = some .chapters
  · refine .inl ⟨?_, hchapters.trans (if_pos hlist)⟩
    cases hcontainer : anyHolds g.chapters.container name attributes with
    | true => rfl
    | false => exact absurd hlist (partOf?_ne_chapters hcontainer)
  · refine .inr ⟨fun hmode => ?_, hchapters.trans (if_neg hlist)⟩
    rw [hmode] at hpart
    exact hlist hpart.symm

theorem itemless_opened (hs : Itemless g (.opened name attributes :: events) s)
    (hlists : ListsEnd g (.opened name attributes :: events)) :
    Itemless g events (s.stepOpened g name attributes) ∧
      (s.stepOpened g name attributes).chapters.records = s.chapters.records := by
  by_cases hidle : s.mode = .idle
  · obtain ⟨hcontainer, hentered⟩ | ⟨hmode, hkept⟩ :=
      cases_of_idle_opened (g := g) name attributes hidle
    · rw [hentered]
      exact ⟨⟨hentered ▸ hs.draft, fun _ => hentered ▸ hlists.1 hcontainer⟩, rfl⟩
    · exact ⟨⟨hkept ▸ hs.draft, fun hm => absurd hm hmode⟩, by rw [hkept]⟩
  · have hmode : (s.stepOpened g name attributes).mode = s.mode := mode_stepOpened_of_reading hidle
    have hkept : (s.stepOpened g name attributes).chapters = s.chapters := by
      rw [chapters_stepOpened]
      split
      · rename_i hm
        rw [openChapters_of_not_item hs.draft (hs.ends hm).1]
      · contradiction
      · rfl
    refine ⟨⟨hkept ▸ hs.draft, fun hm => ?_⟩, by rw [hkept]⟩
    rw [hkept]
    exact (hs.ends (hmode.symm.trans hm)).2

theorem itemless_text (hs : Itemless g (.text content :: events) s) :
    ∃ t, s.stepText g content = .ok t ∧ Itemless g events t ∧
      t.chapters.records = s.chapters.records := by
  by_cases hm : s.mode = .chapters
  · refine ⟨s, ?_, ⟨hs.draft, hs.ends⟩, rfl⟩
    simp [stepText, hm, textChapters, hs.draft]
  · obtain ⟨t, ht, hchapters⟩ := chapters_stepText (g := g) content hm
    have hmode : t.mode = s.mode := mode_stepText ht
    exact ⟨t, ht, ⟨by rw [hchapters, hs.draft], fun htm => absurd (hmode.symm.trans htm) hm⟩,
      by rw [hchapters]⟩

theorem itemless_closed (hs : Itemless g (.closed name :: events) s) :
    Itemless g events (s.stepClosed g p name) ∧
      (s.stepClosed g p name).chapters.records = s.chapters.records := by
  by_cases hm : s.mode = .chapters
  · have hstep : s.stepClosed g p name =
        if name = s.chapters.endTag then s.enter .idle else s := by
      simp [stepClosed, hm, closeChapters, hs.draft]
    rw [hstep]
    split
    · exact ⟨⟨hs.draft, by simp [enter]⟩, rfl⟩
    · rename_i hname
      exact ⟨⟨hs.draft, fun _ => (hs.ends hm).resolve_left hname⟩, rfl⟩
  · have hchapters : (s.stepClosed g p name).chapters = s.chapters := chapters_stepClosed hm
    have hleft : (s.stepClosed g p name).mode ≠ .chapters :=
      (stays_stepClosed name).mode_ne hm (by simp)
    exact ⟨⟨by rw [hchapters, hs.draft], fun htm => absurd htm hleft⟩, by rw [hchapters]⟩

theorem itemless_step (hs : Itemless g (event :: events) s) (hlists : ListsEnd g (event :: events)) :
    ∃ t, s.step g p event = .ok t ∧ Itemless g events t ∧
      t.chapters.records = s.chapters.records := by
  have hcount : Itemless g (event :: events) s.count := ⟨hs.draft, hs.ends⟩
  cases event with
  | opened name attributes => exact ⟨_, rfl, itemless_opened hcount hlists⟩
  | text content => exact itemless_text hcount
  | closed name => exact ⟨_, rfl, itemless_closed hcount⟩

/-! ## Runs -/

/-- Where each list ends before an item begins, nothing fails and no chapter is kept. -/
theorem run_itemless (hs : Itemless g events s) (hlists : ListsEnd g events) :
    ∃ t, s.run g p events = .ok t ∧ t.chapters.records = s.chapters.records := by
  induction events generalizing s with
  | nil => exact ⟨s, rfl, rfl⟩
  | cons event events ih =>
      obtain ⟨m, hstep, hm, hmrecords⟩ := itemless_step (p := p) hs hlists
      obtain ⟨t, hrun, htrecords⟩ := ih hm hlists.tail
      exact ⟨t, (run_cons_of_step events hstep).trans hrun, htrecords.trans hmrecords⟩

theorem extract_itemless (path : String) (hlists : ListsEnd g events) :
    ∃ work, extract g p path events = .ok work ∧ work.chapters = [] := by
  have hinitial : Itemless g events (initial path) := ⟨rfl, by simp [initial]⟩
  obtain ⟨t, hrun, hrecords⟩ := run_itemless (p := p) hinitial hlists
  have hempty : t.chapters.records = [] := hrecords
  have hsettled : t.settledChapters g p = .ok [] := by
    rw [settledChapters, hempty]
    unfold readingOrder
    split <;> rfl
  exact ⟨t.settledWork [], (extract_of_run hrun).trans (finish_of_settledChapters hsettled), rfl⟩

end State

/-! ## Pages -/

namespace Forest

/-- No item lies inside of an element that may begin the list. -/
def ListsNoItem (g : Grammar) (page : Forest) (after : List Event) : Prop :=
  page.OnElements (fun name attributes inner _ =>
    anyHolds g.chapters.container name attributes = true →
      inner.OnTags fun tag others => anyHolds g.chapters.item tag others = false) after

/-- Behind an element that may begin the list and does not end it, the list ends before an item
begins. -/
def EndsLists (g : Grammar) (endTag : String) (page : Forest) (after : List Event) : Prop :=
  page.OnElements (fun name attributes inner behind =>
    anyHolds g.chapters.container name attributes = true →
      .closed endTag ∉ (element name attributes inner .nil).events →
      EndsBeforeItem g endTag behind) after

instance {g : Grammar} {page : Forest} {after : List Event} :
    Decidable (page.ListsNoItem g after) :=
  decidableOnElements page after

instance {g : Grammar} {endTag : String} {page : Forest} {after : List Event} :
    Decidable (page.EndsLists g endTag after) :=
  decidableOnElements page after

theorem listsEnd_events (hend : ∀ name, Context.chaptersEnd g name = endTag) {after : List Event}
    (page : Forest) (hitems : page.ListsNoItem g after) (hends : page.EndsLists g endTag after)
    (hafter : ListsEnd g after) : ListsEnd g (page.events ++ after) := by
  induction page generalizing after with
  | nil => exact hafter
  | text content rest ih => exact ih hitems hends hafter
  | element name attributes inner rest ihInner ihRest =>
      obtain ⟨hitem, hitemsInner, hitemsRest⟩ := hitems
      obtain ⟨hthis, hendsInner, hendsRest⟩ := hends
      have hrest : ListsEnd g (rest.events ++ after) := ihRest hitemsRest hendsRest hafter
      have hinner : ListsEnd g (inner.events ++ .closed name :: (rest.events ++ after)) :=
        ihInner hitemsInner hendsInner hrest
      have hevents : (element name attributes inner rest).events ++ after =
          .opened name attributes :: (inner.events ++ .closed name :: (rest.events ++ after)) := by
        simp [events]
      rw [hevents]
      refine ⟨fun hcontainer => ?_, hinner⟩
      rw [hend]
      refine endsBeforeItem_append (hitem hcontainer) fun hopen => ?_
      -- a list of that name ends with its element although nothing inside of it ends it
      by_cases hname : name = endTag
      · exact .inl hname
      · refine .inr (hthis hcontainer ?_)
        simp [events, hopen, Ne.symm hname]

end Forest

namespace State

open Grammar

variable {o : ThemeOptions} {p : Policy}

/-- A page of the theme has no chapters if none of its lists, up to the end tag that may stand
behind their elements, has an item. -/
theorem extract_of_listsNoItem (path : String) (page : Forest)
    (hitems : page.ListsNoItem (lightNovel o) []) (hends : page.EndsLists (lightNovel o) "ul" []) :
    ∃ work, extract (lightNovel o) p path page.events = .ok work ∧ work.chapters = [] := by
  have hlists := page.listsEnd_events (fun _ => rfl) hitems hends trivial
  rw [List.append_nil] at hlists
  exact extract_itemless path hlists

private def listSite : ThemeOptions where
  id := "t"
  sourceName := "T"
  site := "https://e.com/"

private def listPolicy : Policy where
  now := ⟨⟨2024, 1, 10⟩, 0⟩

private def listTag : Attributes := .ofList [("class", "eplister")]

private def linkedItem : Forest :=
  .element "li" ∅ (.element "a" (.ofList [("href", "https://e.com/c1/")]) .nil .nil) .nil

/-- A list that ends behind its element, one that ends in it, one that is its own element, and an
item of none of them. -/
private def itemlessPage : Forest :=
  .element "div" listTag (.text "Soon" .nil) (.element "ul" ∅ .nil
    (.element "div" listTag (.element "ul" ∅ .nil .nil)
      (.element "ul" listTag .nil (.element "ul" ∅ linkedItem .nil))))

theorem extract_itemlessPage :
    ∃ work, extract (lightNovel listSite) listPolicy "" itemlessPage.events = .ok work ∧
      work.chapters = [] :=
  extract_of_listsNoItem "" itemlessPage (by decide) (by decide)

/-- An empty list, and a menu behind it. -/
private def menuPage : Forest :=
  .element "div" listTag .nil (.element "ul" ∅ linkedItem .nil)

private def menuWork : Work where
  chapters := [{ path := "c1/" }]

theorem not_itemless_menuPage :
    ¬(menuPage.ListsNoItem (lightNovel listSite) [] →
      ∀ work, extract (lightNovel listSite) listPolicy "" menuPage.events = .ok work →
        work.chapters = []) := by
  intro hclaim
  have hwork : extract (lightNovel listSite) listPolicy "" menuPage.events = .ok menuWork := rfl
  have hempty := hclaim (by decide) menuWork hwork
  contradiction

end State

end Feuilleton
