import Feuilleton.Grammar.Theme
import Feuilleton.Proofs.Extraction.HiddenOutcome
import Feuilleton.Proofs.Extraction.Parts

/-!
# Genre blocks

A page may list the genres of its work in several blocks. Each link in them is one genre, whatever
is nested in it, and the genres of the work are those of all blocks, one block after the other. The
text between two links belongs to none of them.
-/

namespace Feuilleton

namespace Forest

/-- The texts at every depth, joined. -/
def wholeText : Forest → String
  | nil => ""
  | text content rest => content ++ rest.wholeText
  | element _ _ inner rest => inner.wholeText ++ rest.wholeText

/-- Texts and links side by side. A link may hold anything but another link. -/
def IsLinkRow : Forest → Prop
  | nil => True
  | text _ rest => rest.IsLinkRow
  | element name _ inner rest => name = "a" ∧ inner.OnTags (fun tag _ => tag ≠ "a") ∧ rest.IsLinkRow

instance decidableIsLinkRow : (row : Forest) → Decidable row.IsLinkRow
  | nil => isTrue trivial
  | text _ rest => decidableIsLinkRow rest
  | element _ _ _ rest =>
      have := decidableIsLinkRow rest
      inferInstanceAs (Decidable (_ ∧ _ ∧ _))

/-- The whole text of each link of a row. -/
def linkTexts : Forest → List String
  | nil => []
  | text _ rest => rest.linkTexts
  | element _ _ inner rest => inner.wholeText :: rest.linkTexts

end Forest

namespace State

open Grammar

variable {g : Grammar} {p : Policy} {s m t u : State} {name content tag last path : String}
  {attributes : Attributes} {event : Event} {events : List Event} {row : Forest}
  {rows : List Forest} {front fragments : List String} {o : ThemeOptions}

/-! ## Inside of a block -/

/-- Genres are being read, and so far these. -/
def AtGenres (readingTag : Option String) (fragments : List String) (s : State) : Prop :=
  s.mode = .genres ∧ s.genres = { readingTag, fragments }

theorem genres_captureCover : (s.captureCover g name attributes).genres = s.genres := by
  unfold captureCover
  split <;> rfl

theorem AtGenres.captureCover {readingTag : Option String} (h : s.AtGenres readingTag fragments)
    (name : String) (attributes : Attributes) :
    (s.captureCover g name attributes).AtGenres readingTag fragments :=
  ⟨mode_captureCover.trans h.1, genres_captureCover.trans h.2⟩

theorem appendToLast_concat (content last : String) (front : List String) :
    appendToLast content (front ++ [last]) = front ++ [last ++ content] := by
  induction front with
  | nil => rfl
  | cons first front ih =>
      cases front with
      | nil => rfl
      | cons second front => exact congrArg (first :: ·) ih

namespace AtGenres

theorem exists_opened_within (h : s.AtGenres (some tag) fragments) (name : String)
    (attributes : Attributes) :
    ∃ t, s.step g p (.opened name attributes) = .ok t ∧ t.AtGenres (some tag) fragments := by
  obtain ⟨hmode, hgenres⟩ := AtGenres.captureCover (g := g) (s := s.count) h name attributes
  refine ⟨_, rfl, ?_⟩
  have hopened : s.count.stepOpened g name attributes = s.count.captureCover g name attributes := by
    simp [stepOpened, hmode, openGenres, hgenres]
  rw [hopened]
  exact ⟨hmode, hgenres⟩

theorem exists_opened_link (h : s.AtGenres none fragments)
    (hlink : anyHolds g.genres.link name attributes = true) :
    ∃ t, s.step g p (.opened name attributes) = .ok t ∧
      t.AtGenres (some name) (fragments ++ [""]) := by
  obtain ⟨hmode, hgenres⟩ := AtGenres.captureCover (g := g) (s := s.count) h name attributes
  refine ⟨_, rfl, ?_⟩
  simp [stepOpened, hmode, openGenres, hgenres, hlink, AtGenres]

theorem exists_text_within (h : s.AtGenres (some tag) (front ++ [last])) (content : String) :
    ∃ t, s.step g p (.text content) = .ok t ∧
      t.AtGenres (some tag) (front ++ [last ++ content]) := by
  have hmode : s.count.mode = .genres := h.1
  have hgenres : s.count.genres = { readingTag := some tag, fragments := front ++ [last] } := h.2
  refine ⟨s.count.textGenres content, by simp [step, stepText, hmode], ?_⟩
  simp [textGenres, hgenres, appendToLast_concat, AtGenres, hmode]

theorem exists_text_between (h : s.AtGenres none fragments) (content : String) :
    ∃ t, s.step g p (.text content) = .ok t ∧ t.AtGenres none fragments := by
  have hmode : s.count.mode = .genres := h.1
  have hgenres : s.count.genres = { readingTag := none, fragments } := h.2
  refine ⟨s.count, ?_, h⟩
  simp [step, stepText, hmode, textGenres, hgenres]

theorem exists_closed_within (h : s.AtGenres (some tag) fragments) (hname : name ≠ tag) :
    ∃ t, s.step g p (.closed name) = .ok t ∧ t.AtGenres (some tag) fragments := by
  have hmode : s.count.mode = .genres := h.1
  have hgenres : s.count.genres = { readingTag := some tag, fragments } := h.2
  refine ⟨s.count, ?_, h⟩
  simp [step, stepClosed, hmode, closeGenres, hgenres, hname]

theorem exists_closed_link (h : s.AtGenres (some tag) fragments) :
    ∃ t, s.step g p (.closed tag) = .ok t ∧ t.AtGenres none fragments := by
  have hmode : s.count.mode = .genres := h.1
  have hgenres : s.count.genres = { readingTag := some tag, fragments } := h.2
  refine ⟨_, rfl, ?_⟩
  simp [stepClosed, hmode, closeGenres, hgenres, AtGenres]

/-- Outside of a link any close tag ends the block. -/
theorem exists_closed_block (h : s.AtGenres none fragments) (name : String) :
    ∃ t, s.step g p (.closed name) = .ok t ∧ t.mode = .idle ∧ t.genres.fragments = fragments := by
  have hmode : s.count.mode = .genres := h.1
  have hgenres : s.count.genres = { readingTag := none, fragments } := h.2
  refine ⟨_, rfl, ?_⟩
  simp [stepClosed, hmode, closeGenres, hgenres, enter]

/-- Whatever is nested in a link, its fragment grows by the nested text and the link goes on. -/
theorem run_within (forest : Forest) (htags : forest.OnTags fun name _ => name ≠ tag)
    (h : s.AtGenres (some tag) (front ++ [last])) :
    ∃ t, s.run g p forest.events = .ok t ∧
      t.AtGenres (some tag) (front ++ [last ++ forest.wholeText]) := by
  induction forest generalizing s last with
  | nil => exact ⟨s, rfl, by simpa [Forest.wholeText] using h⟩
  | text content rest ih =>
      obtain ⟨m, htext, hm⟩ := h.exists_text_within (g := g) (p := p) content
      obtain ⟨t, hrest, ht⟩ := ih (Forest.onTags_text.1 htags) hm
      refine ⟨t, (run_cons_of_step _ htext).trans hrest, ?_⟩
      rwa [Forest.wholeText, ← String.append_assoc]
  | element name attributes inner rest ihInner ihRest =>
      obtain ⟨hname, hinnerTags, hrestTags⟩ := Forest.onTags_element.1 htags
      obtain ⟨m, hopened, hm⟩ := h.exists_opened_within (g := g) (p := p) name attributes
      obtain ⟨c, hinner, hc⟩ := ihInner hinnerTags hm
      obtain ⟨u, hclosed, hu⟩ := hc.exists_closed_within (g := g) (p := p) hname
      obtain ⟨t, hrest, ht⟩ := ihRest hrestTags hu
      refine ⟨t, ?_, ?_⟩
      · rw [Forest.events, List.cons_append, run_cons_of_step _ hopened, run_append_of_run _ hinner,
          run_cons_of_step _ hclosed, hrest]
      · rwa [Forest.wholeText, ← String.append_assoc]

theorem run_row (hrow : row.IsLinkRow) (h : s.AtGenres none fragments) :
    ∃ t, s.run (lightNovel o) p row.events = .ok t ∧
      t.AtGenres none (fragments ++ row.linkTexts) := by
  induction row generalizing s fragments with
  | nil => exact ⟨s, rfl, by simpa [Forest.linkTexts] using h⟩
  | text content rest ih =>
      obtain ⟨m, htext, hm⟩ := h.exists_text_between (g := lightNovel o) (p := p) content
      obtain ⟨t, hrest, ht⟩ := ih hrow hm
      exact ⟨t, (run_cons_of_step _ htext).trans hrest, ht⟩
  | element name attributes inner rest _ ihRest =>
      obtain ⟨rfl, htags, hrest⟩ := hrow
      have hlink : anyHolds (lightNovel o).genres.link "a" attributes = true := rfl
      obtain ⟨m, hopened, hm⟩ := h.exists_opened_link (p := p) hlink
      obtain ⟨c, hinner, hc⟩ := hm.run_within (g := lightNovel o) (p := p) inner htags
      obtain ⟨u, hclosed, hu⟩ := hc.exists_closed_link (g := lightNovel o) (p := p)
      obtain ⟨t, hrun, ht⟩ := ihRest hrest hu
      refine ⟨t, ?_, ?_⟩
      · rw [Forest.events, List.cons_append, run_cons_of_step _ hopened, run_append_of_run _ hinner,
          run_cons_of_step _ hclosed, hrun]
      · simpa [Forest.linkTexts] using ht

end AtGenres

theorem openIdle_of_genres (h : partOf? g name attributes = some .genres) :
    s.openIdle g name attributes =
      { s with mode := .genres, genres := { s.genres with readingTag := none } } := by
  unfold partOf? at h
  split at h
  · rename_i hgenres
    unfold openIdle
    rw [if_pos hgenres]
  split at h
  · cases h
  split at h
  · cases h
  split at h <;> cases h

theorem atGenres_of_entered (hm : s.mode = .idle) (h : s.step g p (.opened name attributes) = .ok t)
    (ht : t.mode = .genres) : t.AtGenres none s.genres.fragments := by
  have hpart := partOf?_of_step hm h
  rw [ht] at hpart
  cases h
  have hcaptured : (s.count.captureCover g name attributes).mode = .idle :=
    mode_captureCover.trans hm
  have hfragments : (s.count.captureCover g name attributes).genres = s.genres :=
    genres_captureCover
  simp only [stepOpened, hcaptured, openIdle_of_genres hpart]
  exact ⟨rfl, by rw [hfragments]⟩

/-- A block is read to its end and adds its links to the fragments. -/
theorem run_genreBlock (hm : s.mode = .idle)
    (hopened : s.step (lightNovel o) p (.opened name attributes) = .ok t) (ht : t.mode = .genres)
    (hrow : row.IsLinkRow) :
    ∃ u, t.run (lightNovel o) p (row.events ++ [.closed name]) = .ok u ∧ u.mode = .idle ∧
      u.genres.fragments = s.genres.fragments ++ row.linkTexts := by
  obtain ⟨c, hread, hc⟩ := (atGenres_of_entered hm hopened ht).run_row (p := p) hrow
  obtain ⟨u, hclosed, hidle, hfragments⟩ :=
    hc.exists_closed_block (g := lightNovel o) (p := p) name
  refine ⟨u, ?_, hidle, hfragments⟩
  rw [run_append_of_run _ hread, run_cons_of_step _ hclosed, run_nil]

/-! ## Outside of blocks -/

theorem fragments_openIdle :
    (s.openIdle g name attributes).genres.fragments = s.genres.fragments := by
  unfold openIdle
  split
  · rfl
  split
  · rfl
  split
  · rfl
  split
  · rfl
  split
  · rfl
  split
  · rfl
  split
  · unfold enterRating
    split <;> rfl
  · rfl

theorem genres_openChapters : (s.openChapters g name attributes).genres = s.genres := by
  unfold openChapters openItem
  split
  · split <;> rfl
  · split
    · rfl
    · split <;> rfl

/-- A link begins only where a genre block goes on. -/
theorem fragments_stepOpened (hm : (s.stepOpened g name attributes).mode ≠ .genres) :
    (s.stepOpened g name attributes).genres.fragments = s.genres.fragments := by
  have hreading : s.mode ≠ .genres := by
    intro hgenres
    have hkept : (s.stepOpened g name attributes).mode = s.mode :=
      mode_stepOpened_of_reading (by simp [hgenres])
    exact hm (hkept.trans hgenres)
  have hmode : (s.captureCover g name attributes).mode = s.mode := mode_captureCover
  have hcover : (s.captureCover g name attributes).genres = s.genres := genres_captureCover
  rw [← hcover]
  rw [← hmode] at hreading
  unfold stepOpened
  generalize s.captureCover g name attributes = c at hreading
  dsimp only
  split
  · exact fragments_openIdle
  · contradiction
  · unfold openSummary
    split <;> rfl
  · unfold openInfo
    split <;> rfl
  · rw [genres_openChapters]
  · rfl
  · rfl

theorem genres_stepText (hm : s.mode ≠ .genres) (h : s.stepText g content = .ok t) :
    t.genres = s.genres := by
  unfold stepText at h
  split at h
  · cases h
    rfl
  · cases h
    rfl
  · cases h
    rfl
  · contradiction
  · cases h
    unfold textSummary
    split <;> rfl
  · cases h
    unfold textInfo
    split <;> rfl
  · obtain rfl | ⟨_, _, _, _, _, _, rfl⟩ := textChapters_eq_ok h <;> rfl

theorem fragments_stepClosed :
    (s.stepClosed g p name).genres.fragments = s.genres.fragments := by
  unfold stepClosed
  split
  · rfl
  · unfold closeTitle
    split <;> rfl
  · unfold closeRating
    split <;> rfl
  · unfold closeGenres
    split
    · split <;> rfl
    · rfl
  · unfold closeSummary
    split
    · rfl
    split
    · rfl
    split <;> rfl
  · unfold closeInfo
    split
    · rfl
    split <;> rfl
  · unfold closeChapters
    split
    · split
      · rfl
      split <;> rfl
    · split <;> rfl

theorem fragments_step (h : s.step g p event = .ok m) (hm : m.mode ≠ .genres) :
    m.genres.fragments = s.genres.fragments := by
  cases event with
  | opened name attributes =>
      cases h
      exact fragments_stepOpened (s := s.count) hm
  | text content =>
      have hmode : m.mode = s.mode := mode_stepText (s := s.count) h
      exact congrArg GenreState.fragments (genres_stepText (s := s.count) (hmode ▸ hm) h)
  | closed name =>
      cases h
      exact fragments_stepClosed (s := s.count)

/-! ## Pages -/

/-- From `s` the events lead to `t`, and `rows` are the insides of the genre blocks among them. No
genres are being read between the blocks, and each block begins in the idle mode. -/
inductive Gathers (g : Grammar) (p : Policy) : State → List Event → List Forest → State → Prop
  | done (s : State) : Gathers g p s [] [] s
  | other {s m t : State} {event : Event} {events : List Event} {rows : List Forest} :
      s.step g p event = .ok m → m.mode ≠ .genres → Gathers g p m events rows t →
      Gathers g p s (event :: events) rows t
  | block {s m t u : State} {name : String} {attributes : Attributes} {row : Forest}
      {events : List Event} {rows : List Forest} :
      s.mode = .idle → s.step g p (.opened name attributes) = .ok m → m.mode = .genres →
      row.IsLinkRow → m.run g p (row.events ++ [.closed name]) = .ok t →
      Gathers g p t events rows u →
      Gathers g p s ((Forest.element name attributes row .nil).events ++ events) (row :: rows) u

namespace Gathers

theorem run (h : Gathers g p s events rows t) : s.run g p events = .ok t := by
  induction h with
  | done => rfl
  | other hstep _ _ ih => exact (run_cons_of_step _ hstep).trans ih
  | block _ hopened _ _ hread _ ih =>
      have hblock := (run_cons_of_step _ hopened).trans hread
      exact (run_append_of_run _ hblock).trans ih

theorem fragments_eq (h : Gathers (lightNovel o) p s events rows t) :
    t.genres.fragments = s.genres.fragments ++ rows.flatMap Forest.linkTexts := by
  induction h with
  | done s => simp
  | other hstep hm _ ih => rw [ih, fragments_step hstep hm]
  | block hidle hopened hgenres hrow hread _ ih =>
      obtain ⟨t', hread', -, hfragments⟩ := run_genreBlock hidle hopened hgenres hrow
      cases hread.symm.trans hread'
      rw [ih, hfragments, List.flatMap_cons, List.append_assoc]

end Gathers

theorem genres_of_extract {work : Work}
    (hblocks : Gathers (lightNovel o) p (initial path) events rows t)
    (h : extract (lightNovel o) p path events = .ok work) :
    work.genres = ((rows.flatMap Forest.linkTexts).map Text.trim).filter (!·.isEmpty) := by
  obtain ⟨s, hs, hfinish⟩ := exists_of_extract_eq_ok h
  obtain ⟨chapters, -, rfl⟩ := exists_of_finish_eq_ok hfinish
  cases hs.symm.trans hblocks.run
  exact congrArg settledGenres hblocks.fragments_eq

/-- A genre block ends with its close tag and adds the whole text of each of its links. The genres
of a work are the texts of all links of its blocks in document order, trimmed and without blank
ones. -/
theorem extract_genres :
    (∀ (s t : State) (name : String) (attributes : Attributes) (row : Forest), s.mode = .idle →
      s.step (lightNovel o) p (.opened name attributes) = .ok t → t.mode = .genres →
      row.IsLinkRow →
      ∃ u, t.run (lightNovel o) p (row.events ++ [.closed name]) = .ok u ∧ u.mode = .idle ∧
        u.genres.fragments = s.genres.fragments ++ row.linkTexts) ∧
    (∀ (path : String) (events : List Event) (rows : List Forest) (t : State) (work : Work),
      Gathers (lightNovel o) p (initial path) events rows t →
      extract (lightNovel o) p path events = .ok work →
      work.genres = ((rows.flatMap Forest.linkTexts).map Text.trim).filter (!·.isEmpty)) :=
  ⟨fun _ _ _ _ _ hidle hopened hgenres hrow => run_genreBlock hidle hopened hgenres hrow,
    fun _ _ _ _ _ hblocks hwork => genres_of_extract hblocks hwork⟩

private def genreSite : ThemeOptions where
  id := "t"
  sourceName := "T"
  site := "https://e.com/"

private def genrePolicy : Policy where
  now := ⟨⟨2024, 1, 10⟩, 0⟩

/-- A genre in pieces, a blank one, and text in between. -/
private def firstRow : Forest :=
  .text "Genres: " (.element "a" (.ofList [("href", "/sci-fi/")])
    (.text " Sci" (.element "b" ∅ (.text "-" (.element "i" ∅ .nil .nil)) (.text "Fi" .nil)))
    (.text ", " (.element "a" ∅ (.text " " .nil) .nil)))

private def secondRow : Forest :=
  .element "a" ∅ (.text "Drama" .nil) (.element "a" ∅ (.element "span" ∅ (.text "Drama" .nil) .nil)
    .nil)

private def blockTag : Attributes := .ofList [("class", "genxed")]

/-- Two blocks, a link of neither of them, and the rest of the page. -/
private def genreEvents : List Event :=
  (Forest.element "div" blockTag firstRow .nil).events ++
    ([.text "Tags", .opened "a" ∅, .text "Outside", .closed "a"] ++
      ((Forest.element "a" (.ofList [("class", "sertogenre")]) secondRow .nil).events ++
        [.closed "body"]))

private def blockEntered : State where
  mode := .genres
  seen := 1

private def genresEnd : State where
  genres := { fragments := [" Sci-Fi", " ", "Drama", "Drama"] }
  seen := 31

theorem extract_genres_twoBlocks :
    (∃ u, blockEntered.run (lightNovel genreSite) genrePolicy
        (firstRow.events ++ [.closed "div"]) = .ok u ∧ u.mode = .idle ∧
      u.genres.fragments = [" Sci-Fi", " "]) ∧
    ∃ work,
      Gathers (lightNovel genreSite) genrePolicy (initial "") genreEvents [firstRow, secondRow]
        genresEnd ∧
      extract (lightNovel genreSite) genrePolicy "" genreEvents = .ok work ∧
      work.genres = ["Sci-Fi", "Drama", "Drama"] := by
  obtain ⟨hblock, hgenres⟩ := extract_genres (o := genreSite) (p := genrePolicy)
  have hrows : firstRow.IsLinkRow ∧ secondRow.IsLinkRow := by decide
  have hpage : Gathers (lightNovel genreSite) genrePolicy (initial "") genreEvents
      [firstRow, secondRow] genresEnd := by
    refine .block rfl rfl rfl hrows.1 rfl ?_
    refine .other rfl (by decide) (.other rfl (by decide) (.other rfl (by decide)
      (.other rfl (by decide) ?_)))
    exact .block rfl rfl rfl hrows.2 rfl (.other rfl (by decide) (.done _))
  refine ⟨?_, _, hpage, rfl, ?_⟩
  · exact hblock (initial "") blockEntered "div" blockTag firstRow rfl rfl rfl hrows.1
  · exact hgenres "" _ _ _ _ hpage rfl

end State

end Feuilleton
