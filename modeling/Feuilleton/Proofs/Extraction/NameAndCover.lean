import Feuilleton.Grammar.Theme
import Feuilleton.Proofs.Extraction.Growth
import Feuilleton.Proofs.Extraction.Quiet

/-!
# Name and cover

The first cover image of a page decides the cover, in whatever part of the page it stands. The name
is the one that was given last, by this image or at the end of a title. A title begins only while
there is no name, so that the image has the last word unless it stands inside of a title.
-/

namespace Feuilleton

variable {g : Grammar} {p : Policy}

/-! ## Cover images -/

/-- The attributes of an open tag that shows a cover image. -/
def Event.image? (g : Grammar) : Event → Option Attributes
  | .opened name attributes =>
      if anyHolds g.cover.image name attributes then some attributes else none
  | .text _ | .closed _ => none

def firstImage? (g : Grammar) (events : List Event) : Option Attributes :=
  events.findSome? (·.image? g)

/-- The cover of an image is its first source that is not empty. -/
inductive CoverOf (rules : CoverRules) (attributes : Attributes) : String → Prop
  | source {before after : List String} {key : String} :
      rules.sourceAttributes = before ++ key :: after →
      (∀ other ∈ before, attributes.value other = "") → attributes.value key ≠ "" →
      CoverOf rules attributes (attributes.value key)
  | missing : (∀ key ∈ rules.sourceAttributes, attributes.value key = "") →
      CoverOf rules attributes defaultCover

namespace State

variable {s t : State} {name content path tag : String} {attributes : Attributes} {event : Event}
  {before after events : List Event} {work : Work}

theorem coverOf_coverSource (rules : CoverRules) (attributes : Attributes) :
    CoverOf rules attributes (coverSource rules attributes) := by
  unfold coverSource
  cases hfound : (rules.sourceAttributes.map attributes.value).find? (!·.isEmpty) with
  | none =>
      apply CoverOf.missing
      intro key hkey
      have hempty := List.find?_eq_none.1 hfound (attributes.value key) (List.mem_map_of_mem hkey)
      simpa using hempty
  | some source =>
      obtain ⟨hsource, front, back, hsplit, hfront⟩ := List.find?_eq_some_iff_append.1 hfound
      obtain ⟨before, rest, hkeys, rfl, hrest⟩ := List.map_eq_append_iff.1 hsplit
      obtain ⟨key, after, rfl, rfl, -⟩ := List.map_eq_cons_iff.1 hrest
      refine CoverOf.source hkeys ?_ (by simpa using hsource)
      intro other hother
      simpa using hfront _ (List.mem_map_of_mem hother)

theorem ne_empty_of_coverOf {rules : CoverRules} {cover : String}
    (h : CoverOf rules attributes cover) : cover ≠ "" := by
  cases h with
  | source _ _ hsource => exact hsource
  | missing => decide

/-! ## Names -/

/-- The name that an event gives to the work. -/
def givenName? (g : Grammar) (s : State) : Event → Option String
  | .opened name attributes =>
      if s.work.cover.isNone && anyHolds g.cover.image name attributes &&
          !(attributes.value g.cover.nameAttribute).isEmpty
      then some (attributes.value g.cover.nameAttribute)
      else none
  | .text _ => none
  | .closed name =>
      if s.mode = .title ∧ s.fieldEndTag = some name then some (Text.trim s.fieldText) else none

/-- The names that a run gives, up to the event at which it fails if it does. -/
def namesGiven (g : Grammar) (p : Policy) : State → List Event → List String
  | _, [] => []
  | s, event :: events =>
      (s.givenName? g event).toList ++ match s.step g p event with
        | .ok t => namesGiven g p t events
        | .error _ => []

theorem namesGiven_cons_of_step (events : List Event) (h : s.step g p event = .ok t) :
    s.namesGiven g p (event :: events) =
      (s.givenName? g event).toList ++ t.namesGiven g p events := by
  rw [namesGiven, h]

/-! ## What a step writes -/

def heading (s : State) : String × Option String :=
  (s.work.name, s.work.cover)

theorem heading_captureCover : (s.captureCover g name attributes).heading =
    ((s.givenName? g (.opened name attributes)).getD s.work.name,
      s.work.cover.or (((Event.opened name attributes).image? g).map (coverSource g.cover))) := by
  unfold captureCover givenName? Event.image?
  cases hcover : s.work.cover with
  | some cover => simp [heading, hcover]
  | none =>
      cases himage : anyHolds g.cover.image name attributes with
      | false => simp [heading, hcover, himage]
      | true =>
          cases hempty : (attributes.value g.cover.nameAttribute).isEmpty with
          | false => simp [heading, himage, hempty]
          | true => simp [heading, himage, hempty]

theorem heading_openIdle : (s.openIdle g name attributes).heading = s.heading := by
  unfold openIdle
  split
  · rfl
  split
  · rfl
  split
  · rfl
  split
  · rfl
  split
  · rfl
  split
  · rfl
  split
  · unfold enterRating
    split <;> rfl
  · rfl

theorem heading_openChapters : (s.openChapters g name attributes).heading = s.heading := by
  unfold openChapters openItem
  split
  · split <;> rfl
  · split
    · rfl
    · split <;> rfl

theorem heading_stepOpened :
    (s.stepOpened g name attributes).heading = (s.captureCover g name attributes).heading := by
  unfold stepOpened
  generalize s.captureCover g name attributes = c
  dsimp only
  split
  · exact heading_openIdle
  · unfold openGenres
    split <;> rfl
  · unfold openSummary
    split <;> rfl
  · unfold openInfo
    split <;> rfl
  · exact heading_openChapters
  · rfl
  · rfl

theorem name_stepOpened :
    (s.stepOpened g name attributes).work.name = (s.captureCover g name attributes).work.name :=
  congrArg Prod.fst heading_stepOpened

theorem heading_stepText (h : s.stepText g content = .ok t) : t.heading = s.heading := by
  unfold stepText at h
  split at h
  · cases h
    rfl
  · cases h
    rfl
  · cases h
    rfl
  · cases h
    unfold textGenres
    split <;> rfl
  · cases h
    unfold textSummary
    split <;> rfl
  · cases h
    unfold textInfo
    split
    · obtain ⟨author, artist, status, hwork⟩ := assignInfo_eq content s.work s.info.activeField
      rw [hwork]
      rfl
    · rfl
  · obtain rfl | ⟨_, _, _, _, _, _, rfl⟩ := textChapters_eq_ok h <;> rfl

theorem heading_stepClosed : (s.stepClosed g p name).heading =
    ((s.givenName? g (.closed name)).getD s.work.name, s.work.cover) := by
  unfold stepClosed givenName?
  split
  · simp [*, heading]
  · unfold closeTitle
    split <;> simp [*, heading]
  · unfold closeRating
    split <;> simp [*, heading]
  · unfold closeGenres
    split
    · split <;> simp [*, heading]
    · simp [*, heading, enter]
  · unfold closeSummary
    split
    · simp [*, heading, appendSummary]
    split
    · simp [*, heading, appendSummary]
    split <;> simp [*, heading]
  · unfold closeInfo
    split
    · simp [*, heading]
    split <;> simp [*, heading]
  · unfold closeChapters
    split
    · split
      · simp [*, heading]
      · split <;> simp [*, heading]
    · split <;> simp [*, heading, enter]

theorem heading_step (h : s.step g p event = .ok t) : t.heading =
    ((s.givenName? g event).getD s.work.name,
      s.work.cover.or ((event.image? g).map (coverSource g.cover))) := by
  cases event with
  | opened name attributes =>
      cases h
      exact heading_stepOpened.trans (heading_captureCover (s := s.count))
  | text content =>
      rw [heading_stepText (s := s.count) h]
      simp [heading, count, givenName?, Event.image?]
  | closed name =>
      cases h
      rw [heading_stepClosed (s := s.count), Event.image?, Option.map_none, Option.or_none]
      rfl

theorem name_step (h : s.step g p event = .ok t) :
    t.work.name = (s.givenName? g event).getD s.work.name :=
  congrArg Prod.fst (heading_step h)

theorem cover_step (h : s.step g p event = .ok t) :
    t.work.cover = s.work.cover.or ((event.image? g).map (coverSource g.cover)) :=
  congrArg Prod.snd (heading_step h)

/-- The name is the last one that was given. -/
theorem name_of_run (h : s.run g p events = .ok t) :
    t.work.name = (s.namesGiven g p events).getLast?.getD s.work.name := by
  induction events generalizing s with
  | nil =>
      cases h
      rfl
  | cons event events ih =>
      obtain ⟨m, hstep, hrest⟩ := run_cons_eq_ok h
      rw [ih hrest, name_step hstep, namesGiven_cons_of_step events hstep, List.getLast?_append]
      cases (m.namesGiven g p events).getLast? <;> cases s.givenName? g event <;> rfl

/-- The cover is that of the first image. -/
theorem cover_of_run (h : s.run g p events = .ok t) :
    t.work.cover = s.work.cover.or ((firstImage? g events).map (coverSource g.cover)) := by
  induction events generalizing s with
  | nil =>
      cases h
      simp [firstImage?]
  | cons event events ih =>
      obtain ⟨m, hstep, hrest⟩ := run_cons_eq_ok h
      rw [ih hrest, cover_step hstep, Option.or_assoc]
      unfold firstImage?
      rw [List.findSome?_cons]
      cases event.image? g <;> rfl

/-! ## Titles behind the image -/

/-- Image and name are there, and no title is being read, so that none will be. -/
structure IsNamed (s : State) : Prop where
  cover : s.work.cover.isSome
  name : s.work.name ≠ ""
  mode : s.mode ≠ .title

theorem mode_openIdle_ne_title (hname : s.work.name ≠ "") (hm : s.mode ≠ .title) :
    (s.openIdle g name attributes).mode ≠ .title := by
  unfold openIdle
  split
  · simp
  split
  · simp [enterSummary]
  split
  · simp
  split
  · simp
  split
  · simp [enterChapters]
  split
  · rename_i htitle
    simp [hname] at htitle
  split
  · unfold enterRating
    split
    · exact hm
    · simp [enterField]
  · exact hm

/-- A title begins only where no name is known, be it from the very same tag. -/
theorem mode_stepOpened_ne_title (hname : (s.stepOpened g name attributes).work.name ≠ "")
    (hm : s.mode ≠ .title) : (s.stepOpened g name attributes).mode ≠ .title := by
  have hmode : (s.captureCover g name attributes).mode = s.mode := mode_captureCover
  rw [name_stepOpened] at hname
  by_cases hidle : s.mode = .idle
  · simp only [stepOpened, hmode, hidle]
    exact mode_openIdle_ne_title hname (by rwa [hmode])
  · rwa [mode_stepOpened_of_reading hidle]

theorem givenName?_opened_of_cover (hcover : s.work.cover.isSome) :
    s.givenName? g (.opened name attributes) = none := by
  obtain ⟨cover, hcover⟩ := Option.isSome_iff_exists.1 hcover
  simp [givenName?, hcover]

theorem isSome_cover_step (hcover : s.work.cover.isSome) (h : s.step g p event = .ok t) :
    t.work.cover.isSome := by
  rw [cover_step h]
  simp [hcover]

theorem IsNamed.givenName? (hs : s.IsNamed) : s.givenName? g event = none := by
  cases event with
  | opened name attributes => exact givenName?_opened_of_cover hs.cover
  | text content => rfl
  | closed name =>
      have hopen : ¬(s.mode = .title ∧ s.fieldEndTag = some name) := fun hended => hs.mode hended.1
      exact if_neg hopen

theorem IsNamed.step (hs : s.IsNamed) (h : s.step g p event = .ok t) : t.IsNamed := by
  have hname : t.work.name ≠ "" := by
    rw [name_step h, hs.givenName?]
    exact hs.name
  refine ⟨isSome_cover_step hs.cover h, hname, ?_⟩
  cases event with
  | opened name attributes =>
      cases h
      exact mode_stepOpened_ne_title (s := s.count) hname hs.mode
  | text content =>
      rw [mode_stepText (s := s.count) h]
      exact hs.mode
  | closed name =>
      cases h
      exact (stays_stepClosed (s := s.count) name).mode_ne hs.mode (by simp)

theorem IsNamed.namesGiven (hs : s.IsNamed) (events : List Event) :
    s.namesGiven g p events = [] := by
  induction events generalizing s with
  | nil => rfl
  | cons event events ih =>
      unfold State.namesGiven
      rw [hs.givenName?]
      split
      · rename_i t hstep
        exact ih (hs.step hstep)
      · rfl

/-- A title that goes on, with the tag that ends it. -/
structure InTitle (tag : String) (s : State) : Prop where
  mode : s.mode = .title
  ends : s.fieldEndTag = some tag
  cover : s.work.cover.isSome

theorem title_opened (hm : s.mode = .title) (h : s.step g p (.opened name attributes) = .ok t) :
    t.mode = .title ∧ t.fieldEndTag = s.fieldEndTag := by
  cases h
  have hmode : (s.count.captureCover g name attributes).mode = .title := mode_captureCover.trans hm
  simp only [stepOpened, hmode, true_and]
  unfold captureCover
  split <;> rfl

theorem InTitle.step (hs : s.InTitle tag) (hevent : event ≠ .closed tag)
    (h : s.step g p event = .ok t) : s.givenName? g event = none ∧ t.InTitle tag := by
  have hcounted : s.count.mode = .title := hs.mode
  have hcover := isSome_cover_step hs.cover h
  cases event with
  | opened name attributes =>
      obtain ⟨hmode, hends⟩ := title_opened hs.mode h
      exact ⟨givenName?_opened_of_cover hs.cover, hmode, hends.trans hs.ends, hcover⟩
  | text content =>
      simp only [State.step, stepText, hcounted] at h
      cases h
      exact ⟨rfl, hs.mode, hs.ends, hs.cover⟩
  | closed name =>
      have hother : s.count.fieldEndTag ≠ some name := by
        rintro hname
        have htag : some name = some tag := hname.symm.trans hs.ends
        cases htag
        exact hevent rfl
      have hopen : ¬(s.mode = .title ∧ s.fieldEndTag = some name) := fun hended => hother hended.2
      simp only [State.step, stepClosed, hcounted, closeTitle, if_neg hother] at h
      cases h
      exact ⟨if_neg hopen, hs.mode, hs.ends, hs.cover⟩

/-- While the title goes on no name is given, and where it ends one is. -/
theorem InTitle.namesGiven_eq_nil_iff (hs : s.InTitle tag) (h : s.run g p events = .ok t) :
    s.namesGiven g p events = [] ↔ .closed tag ∉ events := by
  induction events generalizing s with
  | nil => simp [namesGiven]
  | cons event events ih =>
      obtain ⟨m, hstep, hrest⟩ := run_cons_eq_ok h
      rw [namesGiven_cons_of_step events hstep]
      by_cases hevent : event = .closed tag
      · subst hevent
        simp [givenName?, hs.mode, hs.ends]
      · obtain ⟨hnone, hm⟩ := hs.step hevent hstep
        rw [hnone, List.mem_cons, not_or]
        simpa [Ne.symm hevent] using ih hm hrest

/-! ## Works -/

theorem coverOrDefault_of_ne_empty {cover : String} (h : cover ≠ "") :
    coverOrDefault (some cover) = cover := by
  simp [coverOrDefault, h]

/-- The first image of a page decides the cover, wherever it stands and whatever comes behind it. -/
theorem cover_of_extract (h : extract g p path events = .ok work) :
    (∀ attributes, firstImage? g events = some attributes →
      CoverOf g.cover attributes work.cover) ∧
    (firstImage? g events = none → work.cover = defaultCover) := by
  obtain ⟨t, hrun, hfinish⟩ := exists_of_extract_eq_ok h
  obtain ⟨chapters, -, rfl⟩ := exists_of_finish_eq_ok hfinish
  have hcover : t.work.cover = (firstImage? g events).map (coverSource g.cover) := by
    rw [cover_of_run hrun]
    rfl
  constructor
  · intro attributes hfirst
    have hsource := coverOf_coverSource g.cover attributes
    rw [settledWork, hcover, hfirst, Option.map_some,
      coverOrDefault_of_ne_empty (ne_empty_of_coverOf hsource)]
    exact hsource
  · intro hnone
    rw [settledWork, hcover, hnone]
    rfl

private def imageSite : Grammar :=
  .lightNovel { id := "t", sourceName := "T", site := "https://e.com/" }

private def imagePolicy : Policy where
  now := ⟨⟨2024, 1, 10⟩, 43200⟩

private def imageTag (attributes : List (String × String)) : Event :=
  .opened "img" (.ofList (("class", "ts-post-image") :: attributes))

/-- The first image stands in a description and has no source in the first place. -/
private def describedImage : List Event := [
  .opened "div" (.ofList [("class", "entry-content")]), .text "Prose",
  imageTag [("data-src", ""), ("src", "a.jpg")], .closed "img", .closed "div",
  imageTag [("src", "b.jpg"), ("title", "Later")], .closed "img"]

theorem cover_of_extract_describedImage :
    extract imageSite imagePolicy "" describedImage =
      .ok { summary := "Prose", cover := "a.jpg" } ∧
    ∃ attributes, firstImage? imageSite describedImage = some attributes ∧
      CoverOf imageSite.cover attributes "a.jpg" := by
  have hwork : extract imageSite imagePolicy "" describedImage =
      .ok { summary := "Prose", cover := "a.jpg" } := rfl
  exact ⟨hwork, _, rfl, (cover_of_extract hwork).1 _ rfl⟩

/-- The first image of the page names the work, if it has a name for it. -/
def NamedByImage (g : Grammar) (p : Policy) (path : String) (events : List Event) : Prop :=
  ∀ attributes work, firstImage? g events = some attributes →
    Text.isBlankText (attributes.value g.cover.nameAttribute) = false →
    extract g p path events = .ok work →
    work.name = Text.trim (attributes.value g.cover.nameAttribute)

theorem firstImage?_of_first (hnone : firstImage? g before = none)
    (himage : anyHolds g.cover.image name attributes = true) (after : List Event) :
    firstImage? g (before ++ .opened name attributes :: after) = some attributes := by
  unfold firstImage? at hnone ⊢
  rw [List.findSome?_append, hnone, Option.none_or, List.findSome?_cons, Event.image?,
    if_pos himage]

theorem ne_empty_of_not_blank (h : Text.isBlankText content = false) : content ≠ "" := by
  rintro rfl
  simp [Text.isBlankText] at h

theorem namedByImage_iff_name (hfirst : firstImage? g events = some attributes)
    (htitle : Text.isBlankText (attributes.value g.cover.nameAttribute) = false)
    (hwork : extract g p path events = .ok work) : NamedByImage g p path events ↔
      work.name = Text.trim (attributes.value g.cover.nameAttribute) := by
  constructor
  · intro hnamed
    exact hnamed attributes work hfirst htitle hwork
  · intro hname attributes' work' hfirst' _ hwork'
    cases hfirst.symm.trans hfirst'
    cases hwork.symm.trans hwork'
    exact hname

/-- Right behind the first image the work has its name, and a title goes on if there is one. -/
theorem behind_image (hbefore : (initial path).run g p before = .ok s)
    (hnone : firstImage? g before = none)
    (himage : anyHolds g.cover.image name attributes = true)
    (htitle : attributes.value g.cover.nameAttribute ≠ "")
    (hopened : s.step g p (.opened name attributes) = .ok t) :
    t.work.name = attributes.value g.cover.nameAttribute ∧
      (s.mode ≠ .title → t.IsNamed) ∧
      (s.mode = .title → ∃ tag, s.fieldEndTag = some tag ∧ t.InTitle tag) := by
  have hbare : s.work.cover = none := by
    rw [cover_of_run hbefore, hnone]
    rfl
  have hname : t.work.name = attributes.value g.cover.nameAttribute := by
    rw [name_step hopened]
    simp [givenName?, hbare, himage, htitle]
  have hcover : t.work.cover.isSome := by
    rw [cover_step hopened]
    simp [Event.image?, himage]
  rw [← hname] at htitle
  refine ⟨hname, ?_, ?_⟩
  · intro hm
    cases hopened
    exact ⟨hcover, htitle, mode_stepOpened_ne_title (s := s.count) htitle hm⟩
  · intro hm
    obtain ⟨tag, htag⟩ := Option.isSome_iff_exists.1
      ((Reachable.of_run hbefore).coherent.field (.inl hm))
    obtain ⟨hmode, hends⟩ := title_opened (p := p) hm hopened
    exact ⟨tag, htag, hmode, hends.trans htag, hcover⟩

/-- The image names the work unless it stands inside of a title that ends behind it, and the last
name that titles give from there on is another one. -/
theorem namedByImage_iff (hbefore : (initial path).run g p before = .ok s)
    (hnone : firstImage? g before = none)
    (himage : anyHolds g.cover.image name attributes = true)
    (htitle : Text.isBlankText (attributes.value g.cover.nameAttribute) = false)
    (hopened : s.step g p (.opened name attributes) = .ok t)
    (hwork : extract g p path (before ++ .opened name attributes :: after) = .ok work) :
    NamedByImage g p path (before ++ .opened name attributes :: after) ↔
      (s.mode = .title → ∀ tag, s.fieldEndTag = some tag → .closed tag ∈ after →
        (t.namesGiven g p after).getLast?.map Text.trim =
          some (Text.trim (attributes.value g.cover.nameAttribute))) := by
  rw [namedByImage_iff_name (firstImage?_of_first hnone himage after) htitle hwork]
  obtain ⟨hname, hnamed, htitled⟩ :=
    behind_image hbefore hnone himage (ne_empty_of_not_blank htitle) hopened
  obtain ⟨u, hrun, hfinish⟩ := exists_of_extract_eq_ok hwork
  obtain ⟨chapters, -, hsettled⟩ := exists_of_finish_eq_ok hfinish
  rw [run_append_of_run _ hbefore, run_cons_of_step _ hopened] at hrun
  have hfinal : work.name = Text.trim ((t.namesGiven g p after).getLast?.getD
      (attributes.value g.cover.nameAttribute)) := by
    rw [hsettled, settledWork, name_of_run hrun, hname]
  by_cases hm : s.mode = .title
  · obtain ⟨tag, htag, hin⟩ := htitled hm
    by_cases hends : .closed tag ∈ after
    · -- The title ends behind the image, so that there is a last name from there on.
      have hgiven : t.namesGiven g p after ≠ [] := by
        rw [ne_eq, hin.namesGiven_eq_nil_iff hrun]
        exact not_not_intro hends
      rw [hfinal, List.getLast?_eq_some_getLast hgiven]
      simp [hm, htag, hends]
    · rw [hfinal, (hin.namesGiven_eq_nil_iff hrun).2 hends]
      simp [hm, htag, hends]
  · rw [hfinal, (hnamed hm).namesGiven after]
    simp [hm]

private def titleTag : Event :=
  .opened "h1" (.ofList [("class", "entry-title")])

private def titleEntered : State where
  mode := .title
  fieldEndTag := some "h1"
  fieldText := "My"
  seen := 2

private def titleNamed : State :=
  { titleEntered with
    work := { name := "My Novel ", cover := some "a.jpg" }
    seen := 3 }

/-- Image and title give one name, but for blanks. -/
theorem namedByImage_titledPage :
    NamedByImage imageSite imagePolicy "" ([titleTag, .text "My"] ++
      imageTag [("src", "a.jpg"), ("title", "My Novel ")] ::
        [.closed "img", .text " Novel", .closed "h1"]) := by
  have hbefore : (initial "").run imageSite imagePolicy [titleTag, .text "My"] =
      .ok titleEntered := rfl
  have hopened : titleEntered.step imageSite imagePolicy
      (imageTag [("src", "a.jpg"), ("title", "My Novel ")]) = .ok titleNamed := rfl
  have hwork : extract imageSite imagePolicy "" ([titleTag, .text "My"] ++
      imageTag [("src", "a.jpg"), ("title", "My Novel ")] ::
        [.closed "img", .text " Novel", .closed "h1"]) =
      .ok { name := "My Novel", cover := "a.jpg" } := rfl
  refine (namedByImage_iff hbefore rfl rfl rfl hopened hwork).2 ?_
  intro _ tag _ _
  rfl

private def headedPage : List Event := [
  titleTag, imageTag [("title", "My Novel")], .closed "img", .text "Read online", .closed "h1"]

/-- The title around the image has the last word. -/
theorem not_namedByImage_headedPage :
    extract imageSite imagePolicy "" headedPage = .ok { name := "Read online" } ∧
      ¬NamedByImage imageSite imagePolicy "" headedPage := by
  have hwork : extract imageSite imagePolicy "" headedPage = .ok { name := "Read online" } := rfl
  refine ⟨hwork, fun hnamed => ?_⟩
  have hname : "Read online" = Text.trim "My Novel" := hnamed _ _ rfl rfl hwork
  exact absurd hname (by decide)

end State

end Feuilleton
