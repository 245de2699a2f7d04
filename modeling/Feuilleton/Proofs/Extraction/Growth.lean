import Feuilleton.Proofs.Extraction.Coherence
import Feuilleton.Proofs.Extraction.HiddenOutcome

/-!
# Growing states

What a page has given so far is never taken back: every event adds to the state or leaves it as it
is. A page that is cut off therefore gives the beginning of what the whole page gives.
-/

namespace Feuilleton

variable {g : Grammar} {p : Policy}

namespace State

variable {s t u : State} {name content path : String} {attributes : Attributes}

/-- The fragments that can grow no more: the one whose link is still being read is none of them. -/
def readFragments (s : State) : List String :=
  if s.genres.readingTag.isSome then s.genres.fragments.dropLast else s.genres.fragments

/-- Everything that `s` holds of the page stands at the same place in `t`. -/
structure Extends (t s : State) : Prop where
  chapters : s.chapters.records <+: t.chapters.records
  summary : s.work.summary.toList <+: t.work.summary.toList
  genres : s.readFragments <+: t.readFragments
  links : s.genres.fragments.length ≤ t.genres.fragments.length
  cover : s.work.cover.isSome → t.work.cover = s.work.cover
  rating : s.work.rating.isSome → t.work.rating = s.work.rating
  hidden : s.chapters.hidden ≤ t.chapters.hidden
  lockMarker : s.chapters.lockMarkerSeen = true → t.chapters.lockMarkerSeen = true

namespace Extends

theorem refl (s : State) : s.Extends s where
  chapters := List.prefix_refl _
  summary := List.prefix_refl _
  genres := List.prefix_refl _
  links := Nat.le_refl _
  cover := fun _ => rfl
  rating := fun _ => rfl
  hidden := Nat.le_refl _
  lockMarker := id

theorem trans (hu : u.Extends t) (ht : t.Extends s) : u.Extends s where
  chapters := ht.chapters.trans hu.chapters
  summary := ht.summary.trans hu.summary
  genres := ht.genres.trans hu.genres
  links := Nat.le_trans ht.links hu.links
  cover := fun h => by
    have hcover := ht.cover h
    rw [← hcover] at h ⊢
    exact hu.cover h
  rating := fun h => by
    have hrating := ht.rating h
    rw [← hrating] at h ⊢
    exact hu.rating h
  hidden := Nat.le_trans ht.hidden hu.hidden
  lockMarker := fun h => hu.lockMarker (ht.lockMarker h)

end Extends

theorem readFragments_prefix (s : State) : s.readFragments <+: s.genres.fragments := by
  unfold readFragments
  split
  · exact List.dropLast_prefix _
  · exact List.prefix_refl _

/-! ## Cover and idle mode -/

theorem extends_captureCover : (s.captureCover g name attributes).Extends s := by
  unfold captureCover
  split
  · exact .refl s
  · rename_i hcover
    simp only [Bool.or_eq_true, not_or, Bool.not_eq_true] at hcover
    exact { Extends.refl s with cover := fun h => by simp [hcover.1] at h }

theorem extends_enterRating (hrating : s.work.rating = none) :
    (s.enterRating name attributes).Extends s := by
  unfold enterRating
  split
  · exact { Extends.refl s with rating := fun h => by simp [hrating] at h }
  · exact { Extends.refl s with }

theorem extends_openIdle : (s.openIdle g name attributes).Extends s := by
  unfold openIdle
  split
  · exact { Extends.refl s with genres := readFragments_prefix s }
  split
  · exact { Extends.refl s with }
  split
  · exact { Extends.refl s with }
  split
  · exact { Extends.refl s with }
  split
  · exact { Extends.refl s with }
  split
  · exact { Extends.refl s with }
  split
  · rename_i hrating
    simp only [Bool.and_eq_true, Option.isNone_iff_eq_none] at hrating
    exact extends_enterRating hrating.1
  · exact .refl s

/-! ## Title and rating -/

theorem extends_closeTitle : (s.closeTitle name).Extends s := by
  unfold closeTitle
  split
  · exact { Extends.refl s with }
  · exact .refl s

/-- The end of a rating writes one even if there is none in its text; only a state without a rating
is read for one. -/
theorem extends_closeRating (hrating : s.work.rating = none) : (s.closeRating name).Extends s := by
  unfold closeRating
  split
  · exact { Extends.refl s with rating := fun h => by simp [hrating] at h }
  · exact .refl s

/-! ## Genres -/

theorem length_appendToLast (fragments : List String) :
    (appendToLast content fragments).length = fragments.length := by
  fun_induction appendToLast content fragments with
  | case1 => rfl
  | case2 => rfl
  | case3 first rest _ ih => simp [ih]

theorem dropLast_appendToLast (fragments : List String) :
    (appendToLast content fragments).dropLast = fragments.dropLast := by
  fun_induction appendToLast content fragments with
  | case1 => rfl
  | case2 => rfl
  | case3 first rest hrest ih =>
      have hrest : rest ≠ [] := by simpa using hrest
      rw [List.dropLast_cons_of_ne_nil hrest,
        List.dropLast_cons_of_ne_nil (appendToLast_ne_nil hrest), ih]

theorem extends_openGenres : (s.openGenres g name attributes).Extends s := by
  unfold openGenres
  split
  · rename_i hlink
    simp only [Bool.and_eq_true, Option.isNone_iff_eq_none] at hlink
    exact { Extends.refl s with
      genres := by simp [readFragments, hlink.1]
      links := by simp }
  · exact .refl s

theorem extends_textGenres : (s.textGenres content).Extends s := by
  unfold textGenres
  split
  · rename_i hlink
    exact { Extends.refl s with
      genres := by simp [readFragments, hlink, dropLast_appendToLast]
      links := Nat.le_of_eq (length_appendToLast _).symm }
  · exact .refl s

theorem extends_closeGenres : (s.closeGenres name).Extends s := by
  unfold closeGenres
  split
  · split
    · exact { Extends.refl s with genres := readFragments_prefix s }
    · exact .refl s
  · exact { Extends.refl s with }

/-! ## Summary -/

theorem extends_appendSummary : (s.appendSummary content).Extends s :=
  { Extends.refl s with summary := by simp [appendSummary] }

theorem extends_openSummary : (s.openSummary g name).Extends s := by
  unfold openSummary
  split
  · exact { Extends.refl s with }
  · exact .refl s

theorem extends_textSummary : (s.textSummary content).Extends s := by
  unfold textSummary
  split
  · exact extends_appendSummary
  · exact .refl s

theorem extends_closeSummary : (s.closeSummary g name).Extends s := by
  unfold closeSummary
  split
  · exact extends_appendSummary
  split
  · exact extends_appendSummary
  split
  · exact { Extends.refl s with }
  · exact .refl s

/-! ## Author, artist and status -/

/-- The information block writes neither summary nor cover nor rating. -/
theorem assignInfo_eq (content : String) (work : WorkDraft) (field : Option InfoField) :
    ∃ author artist status,
      assignInfo content work field = { work with author, artist, status } := by
  rcases field with _ | _ | _ | _ <;> exact ⟨_, _, _, rfl⟩

theorem extends_openInfo : (s.openInfo g name attributes).Extends s := by
  unfold openInfo
  split
  · exact { Extends.refl s with }
  · exact .refl s

theorem extends_textInfo : (s.textInfo content).Extends s := by
  unfold textInfo
  split
  · obtain ⟨author, artist, status, hwork⟩ := assignInfo_eq content s.work s.info.activeField
    rw [hwork]
    exact { Extends.refl s with }
  · exact .refl s

theorem extends_closeInfo : (s.closeInfo name).Extends s := by
  unfold closeInfo
  split
  · exact { Extends.refl s with }
  split
  · exact { Extends.refl s with }
  · exact .refl s

/-! ## Chapters -/

theorem extends_openChapters : (s.openChapters g name attributes).Extends s := by
  unfold openChapters openItem
  split
  · split
    · exact { Extends.refl s with }
    · exact .refl s
  · split
    · exact { Extends.refl s with }
    · split
      · exact { Extends.refl s with }
      · exact .refl s

theorem lockMarkerSeen_of_cellText {workName : String} {c c' : ChapterState}
    {draft : ChapterDraft} {cell : Cell} (h : cellText g workName content c draft cell = .ok c')
    (hseen : c.lockMarkerSeen = true) : c'.lockMarkerSeen = true := by
  cases cell with
  | number =>
      obtain ⟨taken, -, hc'⟩ := exists_of_bind_eq_ok h
      cases hc'
      simp [hseen]
  | title =>
      simp only [cellText, titleText] at h
      split at h
      · obtain ⟨taken, -, hc'⟩ := exists_of_bind_eq_ok h
        cases hc'
        exact hseen
      · cases h
        exact hseen
  | date =>
      cases h
      exact hseen
  | price =>
      cases h
      exact hseen

theorem extends_textChapters (h : s.textChapters g content = .ok t) : t.Extends s := by
  unfold textChapters at h
  split at h
  · rename_i draft cell hdraft hcell
    obtain ⟨c, hc, rfl⟩ := exists_of_map_eq_ok h
    have hseen := lockMarkerSeen_of_cellText hc
    obtain ⟨draft', -, heq⟩ := cellText_eq_ok hdraft hc
    rw [heq]
    exact { Extends.refl s with lockMarker := hseen }
  · cases h
    exact .refl s

theorem extends_finishChapter (draft : ChapterDraft) :
    ({ s with chapters := finishChapter g p draft s.chapters } : State).Extends s := by
  by_cases hshown : s.chapters.locks draft = false ∨ p.hideLocked = false
  · rw [finishChapter_of_shown hshown]
    exact { Extends.refl s with chapters := List.prefix_append _ _ }
  · rw [not_or, Bool.not_eq_false, Bool.not_eq_false] at hshown
    rw [finishChapter_of_hidden hshown.1 hshown.2]
    exact { Extends.refl s with hidden := Nat.le_succ _ }

theorem extends_closeChapters : (s.closeChapters g p name).Extends s := by
  unfold closeChapters
  split
  · split
    · exact { Extends.refl s with }
    split
    · exact extends_finishChapter _
    · exact .refl s
  · split
    · exact { Extends.refl s with }
    · exact .refl s

/-! ## Steps and runs -/

theorem extends_stepOpened : (s.stepOpened g name attributes).Extends s := by
  have hcover : (s.captureCover g name attributes).Extends s := extends_captureCover
  refine Extends.trans ?_ hcover
  unfold stepOpened
  generalize s.captureCover g name attributes = c
  dsimp only
  cases c.mode with
  | idle => exact extends_openIdle
  | title => exact .refl c
  | rating => exact .refl c
  | genres => exact extends_openGenres
  | summary => exact extends_openSummary
  | info => exact extends_openInfo
  | chapters => exact extends_openChapters

theorem extends_stepText (h : s.stepText g content = .ok t) : t.Extends s := by
  unfold stepText at h
  cases hm : s.mode with
  | idle => rw [hm] at h; cases h; exact .refl s
  | title => rw [hm] at h; cases h; exact { Extends.refl s with }
  | rating => rw [hm] at h; cases h; exact { Extends.refl s with }
  | genres => rw [hm] at h; cases h; exact extends_textGenres
  | summary => rw [hm] at h; cases h; exact extends_textSummary
  | info => rw [hm] at h; cases h; exact extends_textInfo
  | chapters => rw [hm] at h; exact extends_textChapters h

theorem extends_stepClosed (hs : Coherent p s) : (s.stepClosed g p name).Extends s := by
  unfold stepClosed
  cases hm : s.mode with
  | idle => exact .refl s
  | title => exact extends_closeTitle
  | rating => exact extends_closeRating (hs.unrated hm)
  | genres => exact extends_closeGenres
  | summary => exact extends_closeSummary
  | info => exact extends_closeInfo
  | chapters => exact extends_closeChapters

theorem Coherent.extends_step {event : Event} (hs : Coherent p s)
    (h : s.step g p event = .ok t) : t.Extends s := by
  have hcount : s.count.Extends s := { Extends.refl s with }
  have hs' : Coherent p s.count := { hs with }
  refine Extends.trans ?_ hcount
  cases event with
  | opened name attributes => cases h; exact extends_stepOpened
  | text content => exact extends_stepText h
  | closed name => cases h; exact extends_stepClosed hs'

theorem Coherent.extends_run {events : List Event} (hs : Coherent p s)
    (h : s.run g p events = .ok t) : t.Extends s := by
  have hkeeps : ∀ {m n : State} {event : Event}, Coherent p m ∧ m.Extends s →
      m.step g p event = .ok n → Coherent p n ∧ n.Extends s := by
    intro m n event hm hstep
    exact ⟨hm.1.step hstep, (hm.1.extends_step hstep).trans hm.2⟩
  exact (run_invariant hkeeps ⟨hs, .refl s⟩ h).2

/-! ## Finished works -/

/-- Numbers and dates of the first chapters do not depend on the later ones. -/
theorem settleChapters_append_eq_ok {numbering : Numbering} {dates : DateParser}
    {now : Moment} {position : Nat}
    {front back result : List Chapter}
    (h : settleChapters numbering dates now position (front ++ back) = .ok result) :
    ∃ settledFront, settleChapters numbering dates now position front = .ok settledFront ∧
      settledFront <+: result := by
  induction front generalizing position result with
  | nil => exact ⟨[], rfl, List.nil_prefix⟩
  | cons chapter front ih =>
      obtain ⟨time, rest, htime, hrest, rfl⟩ := settleChapters_cons_eq_ok h
      obtain ⟨settledFront, hfront, hprefix⟩ := ih hrest
      refine ⟨settled numbering position time chapter :: settledFront, ?_, ?_⟩
      · rw [settleChapters_cons, htime, hfront]
        rfl
      · exact (List.prefix_cons_inj _).2 hprefix

theorem Extends.finish (h : t.Extends s) (hg : g.reverseChapters = false) {whole : Work}
    (hwhole : t.finish g p = .ok whole) :
    ∃ cut, s.finish g p = .ok cut ∧ cut.chapters <+: whole.chapters := by
  have horder (chapters : List Chapter) : readingOrder g chapters = chapters := by
    simp [readingOrder, hg]
  obtain ⟨chapters, hchapters, rfl⟩ := exists_of_finish_eq_ok hwhole
  obtain ⟨later, hrecords⟩ := h.chapters
  rw [settledChapters, horder, ← hrecords] at hchapters
  obtain ⟨kept, hkept, hprefix⟩ := settleChapters_append_eq_ok hchapters
  rw [← horder s.chapters.records] at hkept
  exact ⟨_, finish_of_settledChapters hkept, hprefix⟩

/-- The state behind the first events of a page is extended by that behind all of them, and where
the site lists its chapters in reading order, the work of the cut page has the first chapters of
the whole work, whether their numbers are parsed or counted. -/
theorem extends_of_run_append {front back : List Event}
    (h : (initial path).run g p (front ++ back) = .ok t) :
    ∃ s, (initial path).run g p front = .ok s ∧ t.Extends s ∧
      (g.reverseChapters = false → ∀ whole, extract g p path (front ++ back) = .ok whole →
        ∃ cut, extract g p path front = .ok cut ∧ cut.chapters <+: whole.chapters) := by
  obtain ⟨s, hs, hback⟩ := run_append_eq_ok h
  have hextends := ((coherent_initial path).run hs).extends_run hback
  refine ⟨s, hs, hextends, fun hg whole hwhole => ?_⟩
  rw [extract_of_run h] at hwhole
  rw [extract_of_run hs]
  exact hextends.finish hg hwhole

private def growingSite : Grammar where
  id := ""
  sourceName := ""
  site := ""
  genres := { container := [.tagIs "nav"] }
  chapters := { container := [.tagIs "ol"], endTag := none }

private def growingPolicy : Policy where
  now := ⟨⟨2024, 1, 10⟩, 0⟩

private def growingItem (path : String) : List Event :=
  [.opened "li" ∅, .opened "a" (.ofList [("href", path)]), .closed "a", .closed "li"]

/-- A page that is cut off within the text of a genre. -/
private def growingFront : List Event :=
  .opened "ol" ∅ :: (growingItem "c1" ++
    [.closed "ol", .opened "nav" ∅, .opened "a" ∅, .text "Dra"])

private def growingBack : List Event :=
  [.text "ma", .closed "a", .closed "nav", .opened "ol" ∅] ++ growingItem "c2"

/-- The second chapter list has not ended yet. -/
private def grownState : State where
  mode := .chapters
  genres := { fragments := ["Drama"] }
  chapters := { endTag := "ol", records := [{ path := "c1" }, { path := "c2" }] }
  seen := 17

theorem extends_grownState : ∃ s cut,
    (initial "").run growingSite growingPolicy growingFront = .ok s ∧ grownState.Extends s ∧
      extract growingSite growingPolicy "" growingFront = .ok cut ∧
      cut.chapters <+: [{ path := "c1" }, { path := "c2" }] := by
  have hrun : (initial "").run growingSite growingPolicy (growingFront ++ growingBack) =
      .ok grownState := rfl
  obtain ⟨s, hs, hextends, hfinish⟩ := extends_of_run_append hrun
  obtain ⟨cut, hcut, hprefix⟩ := hfinish rfl _ rfl
  exact ⟨s, cut, hs, hextends, hcut, hprefix⟩

end State

end Feuilleton
