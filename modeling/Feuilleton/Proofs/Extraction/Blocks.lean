import Feuilleton.Extraction.Outcome
import Feuilleton.Proofs.Extraction.ListCourse
import Feuilleton.Proofs.Extraction.ThemeTags

/-!
# Blocks

Sites order the parts of a page differently. A page that consists of blocks, each of them read as
one part, gives the same work in any order that keeps the blocks of each part in order.
-/

namespace Feuilleton

/-- An element that is read as one part of a page, with nothing inside that could be read as
another. An element that begins a chapter list may end before the list does; a block does not. -/
structure Block (g : Grammar) (p : Policy) where
  name : String
  attributes : Attributes
  inner : Forest
  part : Part
  entered : ((State.initial "").stepOpened g name attributes).mode = part.mode
  coverless : anyHolds g.cover.image name attributes = false
  quiet : inner.OnTags (Quiet g)
  returns : part = .chapters → ∀ t,
    (State.initial "").run g p (Forest.element name attributes inner .nil).events = .ok t →
      t.mode = .idle

namespace State

open Grammar

variable {o : ThemeOptions} {p : Policy} {s : State} {name : String} {attributes : Attributes}

theorem exists_run_rest {inner : Forest} (hs : Coherent p s) (hm : s.mode = .idle)
    (haway : (s.openIdle (lightNovel o) name attributes).mode ≠ .chapters)
    (hlist : inner.OnTags fun name attributes =>
      anyHolds (lightNovel o).chapters.container name attributes = false) :
    ∃ t, (s.openIdle (lightNovel o) name attributes).run (lightNovel o) p
      (inner.events ++ [.closed name]) = .ok t ∧ t.mode = .idle := by
  have hopens : Context.Opens (lightNovel o) name attributes .idle
      (s.openIdle (lightNovel o) name attributes).context := opens_openIdle hs hm
  have hplain := Context.Plain.of_opens (c := .idle) trivial hopens fun hsummary => by
    rw [summaryTag_lightNovel hsummary]
    decide
  -- Away from the chapter list nothing inside fails, and nothing outlives its element.
  obtain ⟨read, hread, -, -⟩ := run_away (p := p) haway hlist
  have hinner := settles_theme (coherent_openIdle hs hm) hplain hlist hread
  have hclosed := hinner.close_of_opens (c := .idle)
    (fun _ hcontext => absurd (mode_of_context hcontext) haway)
    (show "p" ∉ ["div", "script"] by decide) (show "br" ∉ ["div", "script"] by decide) trivial
    hplain hopens
  refine ⟨read.count.stepClosed (lightNovel o) p name, run_append_of_run _ hread, ?_⟩
  rw [← context_eq_idle_iff, context_stepClosed]
  exact hclosed.eq_idle

end State

namespace Block

open State Grammar

variable {o : ThemeOptions} {g : Grammar} {p : Policy} {b c : Block g p} {r s t u : State} {n : Nat}

def events (b : Block g p) : List Event :=
  (Forest.element b.name b.attributes b.inner .nil).events

def rest (b : Block g p) : List Event :=
  b.inner.events ++ [.closed b.name]

theorem quiet_rest (b : Block g p) : ∀ event ∈ b.rest, event.Quiet g := by
  intro event hmem
  rcases List.mem_append.1 hmem with hinner | hclose
  · exact b.quiet.quiet event hinner
  · rw [List.mem_singleton.1 hclose]
    trivial

/-! ## One block -/

theorem stepOpened_eq (b : Block g p) (hm : s.mode = .idle) :
    s.stepOpened g b.name b.attributes = s.openIdle g b.name b.attributes := by
  simp only [stepOpened, captureCover_of_not_image b.coverless, hm]

theorem partOf?_eq (b : Block g p) : partOf? g b.name b.attributes = some b.part := by
  have hidle : (initial "").mode = .idle := rfl
  rw [← part?_openIdle (s := initial "") _ _ hidle, ← b.stepOpened_eq hidle, b.entered,
    Part.part?_mode]

theorem mode_opened (b : Block g p) (hm : s.mode = .idle) :
    (s.openIdle g b.name b.attributes).mode = b.part.mode :=
  Mode.eq_of_part? ((part?_openIdle _ _ hm).trans b.partOf?_eq)

theorem name_opened (b : Block g p) :
    (s.openIdle g b.name b.attributes).work.name = s.work.name := by
  have hframe := openIdle_graft (r := s) (n := s.seen) (s := s) b.partOf?_eq
  rw [graft_self] at hframe
  rw [hframe, graft_name]

theorem run_events (b : Block g p) (hm : s.mode = .idle) :
    s.run g p b.events = (s.count.openIdle g b.name b.attributes).run g p b.rest := by
  have hopened : s.step g p (.opened b.name b.attributes) = _ :=
    congrArg Except.ok (b.stepOpened_eq (s := s.count) hm)
  exact run_cons_of_step _ hopened

/-- On a graft of its part a block does what it does on the state from which it was taken. -/
theorem run_graft (b : Block g p) (hm : s.mode = .idle) (hname : r.work.name = s.work.name) :
    (graft b.part r n s).run g p b.events =
      (s.run g p b.events).map (graft b.part r (n + b.events.length)) := by
  have hopened : s.count.mode = .idle := hm
  have hlength : n + b.events.length = n + 1 + b.rest.length :=
    Nat.add_right_comm n b.rest.length 1
  rw [b.run_events hm, b.run_events (graft_mode.trans hm), count_graft,
    openIdle_graft b.partOf?_eq, hlength]
  exact State.run_graft (.inr (b.mode_opened hopened))
    (hname.trans (b.name_opened (s := s.count)).symm) b.quiet_rest

theorem frame (b : Block g p) (hm : s.mode = .idle) (h : s.run g p b.events = .ok t) :
    t = graft b.part s (s.seen + b.events.length) t := by
  have hgraft := b.run_graft (r := s) (n := s.seen) hm rfl
  rw [graft_self, h] at hgraft
  exact Except.ok.inj hgraft

/-- Behind a block of another part a block does what it would have done before. -/
theorem run_behind (hne : b.part ≠ c.part) (hm : s.mode = .idle)
    (h : s.run g p b.events = .ok t) (ht : t.mode = .idle) :
    t.run g p c.events = (s.run g p c.events).map (graft c.part t (t.seen + c.events.length)) := by
  have hframe := b.frame hm h
  have hname : t.work.name = s.work.name := by
    rw [hframe, graft_name]
  have hgraft : graft c.part t t.seen s = t := by
    have hother := graft_other (n := s.seen + b.events.length) hne (ht.trans hm.symm)
    have hseen : t.seen = s.seen + b.events.length := by
      rw [hframe, graft_seen]
    rw [← hframe, ← hseen] at hother
    exact hother
  rw [← c.run_graft hm hname, hgraft]

/-! ## Blocks that end -/

/-- Between the blocks of a page, where nothing is being read, and neither name nor cover nor
rating is known. -/
structure Between (p : Policy) (s : State) : Prop where
  coherent : Coherent p s
  idle : s.mode = .idle
  name : s.work.name = ""
  cover : s.work.cover = none
  rating : s.work.rating = none

theorem between_initial (p : Policy) (path : String) : Between p (initial path) where
  coherent := coherent_initial path
  idle := rfl
  name := rfl
  cover := rfl
  rating := rfl

theorem Between.sameCourse (hs : Between p s) (ht : Between p t) : SameCourse s t := by
  have hdraft {u : State} (hu : Between p u) : u.chapters.draft = none :=
    hu.coherent.draft_eq_none (by simp [hu.idle])
  have hcell {u : State} (hu : Between p u) : u.chapters.activeCell = none :=
    hu.coherent.activeCell_eq_none (hdraft hu)
  exact .ofIdle hs.idle ht.idle (hs.name.trans ht.name.symm) (by rw [hs.cover, ht.cover])
    (by rw [hs.rating, ht.rating]) ((hdraft hs).trans (hdraft ht).symm)
    ((hcell hs).trans (hcell ht).symm)

theorem idle_of_chapters (b : Block g p) (hpart : b.part = .chapters) (hs : Between p s)
    (h : s.run g p b.events = .ok t) : t.mode = .idle := by
  have halike := (hs.sameCourse (between_initial p "")).run (g := g) (p := p) b.events
  rw [h] at halike
  generalize hfresh : (initial "").run g p b.events = fresh at halike
  cases halike with
  | ok hsame => exact hsame.mode.trans (b.returns hpart _ hfresh)

theorem exists_run_of_ne_chapters (b : Block (lightNovel o) p) (hpart : b.part ≠ .chapters)
    (hs : Between p s) : ∃ t, s.run (lightNovel o) p b.events = .ok t ∧ t.mode = .idle := by
  have hidle : s.count.mode = .idle := hs.idle
  have haway : (s.count.openIdle (lightNovel o) b.name b.attributes).mode ≠ .chapters := by
    rw [b.mode_opened hidle]
    revert hpart
    cases b.part <;> decide
  rw [b.run_events hs.idle]
  exact exists_run_rest { hs.coherent with } hidle haway fun name attributes hmem =>
    (b.quiet name attributes hmem).chapters

theorem idle_of_run (b : Block (lightNovel o) p) (hs : Between p s)
    (h : s.run (lightNovel o) p b.events = .ok t) : t.mode = .idle := by
  by_cases hpart : b.part = .chapters
  · exact b.idle_of_chapters hpart hs h
  · obtain ⟨u, hu, hidle⟩ := b.exists_run_of_ne_chapters hpart hs
    rw [hu] at h
    exact Except.ok.inj h ▸ hidle

theorem Between.run {b : Block (lightNovel o) p} (hs : Between p s)
    (h : s.run (lightNovel o) p b.events = .ok t) : Between p t := by
  have hframe := b.frame hs.idle h
  have hname : t.work.name = s.work.name := by rw [hframe, graft_name]
  have hcover : t.work.cover = s.work.cover := by rw [hframe, graft_cover]
  have hrating : t.work.rating = s.work.rating := by rw [hframe, graft_rating]
  exact ⟨hs.coherent.run h, b.idle_of_run hs h, hname.trans hs.name, hcover.trans hs.cover,
    hrating.trans hs.rating⟩

/-! ## The order of blocks -/

theorem run_append_of_error {b c : Block (lightNovel o) p} (hne : b.part ≠ c.part)
    (hs : Between p s) {tooLong : Text.NumeralTooLong}
    (h : s.run (lightNovel o) p c.events = .error tooLong) :
    s.run (lightNovel o) p (b.events ++ c.events) = .error tooLong := by
  -- Only a chapter list fails, so that the other block is none and cannot stop it from failing.
  have hlist : c.part = .chapters := by
    apply Decidable.byContradiction
    intro hpart
    obtain ⟨u, hu, -⟩ := c.exists_run_of_ne_chapters hpart hs
    rw [hu] at h
    contradiction
  obtain ⟨t, ht, hidle⟩ := b.exists_run_of_ne_chapters (hlist ▸ hne) hs
  rw [run_append_of_run _ ht, run_behind hne hs.idle ht hidle, h]
  rfl

/-- Blocks of two parts can be read in either order. -/
theorem run_comm {b c : Block (lightNovel o) p} (hne : b.part ≠ c.part) (hs : Between p s) :
    s.run (lightNovel o) p (b.events ++ c.events) =
      s.run (lightNovel o) p (c.events ++ b.events) := by
  cases hb : s.run (lightNovel o) p b.events with
  | error tooLong =>
      rw [run_append_of_error hne.symm hs hb, run_append, hb]
      rfl
  | ok t =>
      cases hc : s.run (lightNovel o) p c.events with
      | error tooLong =>
          rw [run_append_of_error hne hs hc, run_append, hc]
          rfl
      | ok u =>
          have ht := b.idle_of_run hs hb
          have hu := c.idle_of_run hs hc
          have hb' := b.frame hs.idle hb
          have hc' := c.frame hs.idle hc
          have hseen : t.seen + c.events.length = u.seen + b.events.length := by
            rw [hb', hc', graft_seen, graft_seen]
            omega
          have hcomm := graft_comm (s := s) (n := t.seen + c.events.length)
            (k := s.seen + b.events.length) (m := s.seen + c.events.length) hne
            (ht.trans hu.symm)
          rw [← hb', ← hc'] at hcomm
          rw [run_append_of_run _ hb, run_append_of_run _ hc, run_behind hne hs.idle hb ht,
            run_behind hne.symm hs.idle hc hu, hb, hc, ← hseen]
          exact congrArg Except.ok hcomm

theorem run_flatMap_append {front : List (Block (lightNovel o) p)} {b : Block (lightNovel o) p}
    (hfront : ∀ c ∈ front, c.part ≠ b.part) (hs : Between p s) :
    s.run (lightNovel o) p (front.flatMap events ++ b.events) =
      s.run (lightNovel o) p (b.events ++ front.flatMap events) := by
  induction front generalizing s with
  | nil => simp
  | cons c front ih =>
      obtain ⟨hc, hrest⟩ := List.forall_mem_cons.1 hfront
      -- The block is brought before the rest of the front first, and then before its head.
      have hpush : s.run (lightNovel o) p (c.events ++ (front.flatMap events ++ b.events)) =
          s.run (lightNovel o) p (c.events ++ (b.events ++ front.flatMap events)) := by
        rw [run_append, run_append]
        cases hread : s.run (lightNovel o) p c.events with
        | error tooLong => rfl
        | ok t => exact ih hrest (hs.run hread)
      rw [List.flatMap_cons, List.append_assoc, hpush, ← List.append_assoc, run_append,
        run_comm hc hs, ← run_append, List.append_assoc]

end Block

/-- The same blocks in another order, but those of each part in the same one. -/
structure Rearranges {g : Grammar} {p : Policy} (blocks others : List (Block g p)) : Prop where
  perm : blocks.Perm others
  order : ∀ part, blocks.filter (·.part = part) = others.filter (·.part = part)

namespace Rearranges

open State Grammar

variable {o : ThemeOptions} {g : Grammar} {p : Policy} {s : State}

theorem exists_of_cons {b : Block g p} {blocks others : List (Block g p)}
    (h : Rearranges (b :: blocks) others) :
    ∃ front back, others = front ++ b :: back ∧ (∀ c ∈ front, c.part ≠ b.part) ∧
      Rearranges blocks (front ++ back) := by
  have horder := h.order b.part
  rw [List.filter_cons_of_pos (by simp), eq_comm, List.filter_eq_cons_iff] at horder
  obtain ⟨front, back, rfl, hfront, -, hback⟩ := horder
  have hfront : ∀ c ∈ front, c.part ≠ b.part := by simpa using hfront
  refine ⟨front, back, rfl, hfront, ?_, ?_⟩
  · exact (List.perm_cons b).1 (h.perm.trans List.perm_middle)
  · intro part
    have hpart := h.order part
    rw [List.filter_append] at hpart ⊢
    by_cases hb : b.part = part
    · have hnone : front.filter (·.part = part) = [] := by
        rw [List.filter_eq_nil_iff]
        intro c hc
        rw [← hb]
        simpa using hfront c hc
      rw [hnone, List.filter_cons_of_pos (by simpa using hb),
        List.filter_cons_of_pos (by simpa using hb)] at hpart
      rw [hnone]
      exact (List.cons.inj hpart).2
    · rw [List.filter_cons_of_neg (by simpa using hb),
        List.filter_cons_of_neg (by simpa using hb)] at hpart
      exact hpart

theorem run_eq {blocks others : List (Block (lightNovel o) p)} (h : Rearranges blocks others)
    (hs : Block.Between p s) :
    s.run (lightNovel o) p (blocks.flatMap Block.events) =
      s.run (lightNovel o) p (others.flatMap Block.events) := by
  induction blocks generalizing others s with
  | nil => rw [h.perm.nil_eq]
  | cons b blocks ih =>
      -- In the other list only blocks of other parts stand before the first block of this one.
      obtain ⟨front, back, rfl, hfront, hrest⟩ := h.exists_of_cons
      have hforward : s.run (lightNovel o) p ((front ++ b :: back).flatMap Block.events) =
          s.run (lightNovel o) p (b.events ++ (front ++ back).flatMap Block.events) := by
        rw [List.flatMap_append, List.flatMap_cons, ← List.append_assoc, run_append,
          Block.run_flatMap_append hfront hs, ← run_append, List.append_assoc,
          ← List.flatMap_append]
      rw [hforward, List.flatMap_cons, run_append, run_append]
      cases hread : s.run (lightNovel o) p b.events with
      | error tooLong => rfl
      | ok t => exact ih hrest (hs.run hread)

/-- The order of the parts of a page does not matter. -/
theorem extract_eq {path : String} {blocks others : List (Block (lightNovel o) p)}
    (h : Rearranges blocks others) :
    extract (lightNovel o) p path (blocks.flatMap Block.events) =
      extract (lightNovel o) p path (others.flatMap Block.events) := by
  unfold extract
  rw [h.run_eq (Block.between_initial p path)]

end Rearranges

private def orderedSite : Grammar := .lightNovel {
  id := "t"
  sourceName := "T"
  site := "https://e.com/" }

private def orderedPolicy : Policy where
  now := ⟨⟨2024, 1, 10⟩, 0⟩

private def genresBlock (genre : String) : Block orderedSite orderedPolicy where
  name := "div"
  attributes := .ofList [("class", "genxed")]
  inner := .element "a" ∅ (.text genre .nil) .nil
  part := .genres
  entered := rfl
  coverless := rfl
  quiet := by
    simp only [Forest.onTags_element, Forest.onTags_text, Forest.onTags_nil, and_true]
    decide
  returns := nofun

private def authorBlock : Block orderedSite orderedPolicy where
  name := "div"
  attributes := .ofList [("class", "spe")]
  inner := .element "span" ∅ (.text "Author:" .nil) (.element "span" ∅ (.text "Somebody" .nil) .nil)
  part := .info
  entered := rfl
  coverless := rfl
  quiet := by decide
  returns := nofun

private def listBlock : Block orderedSite orderedPolicy where
  name := "div"
  attributes := .ofList [("class", "eplister")]
  inner := .element "ul" ∅
    (.element "li" ∅ (.element "a" (.ofList [("href", "https://e.com/c1/")]) .nil .nil) .nil) .nil
  part := .chapters
  entered := rfl
  coverless := rfl
  quiet := by decide
  returns := fun _ t h => by
    cases h
    rfl

theorem extract_listBlock_first :
    extract orderedSite orderedPolicy ""
        ([genresBlock "Drama", authorBlock, genresBlock "Comedy", listBlock].flatMap Block.events) =
      extract orderedSite orderedPolicy ""
        ([listBlock, genresBlock "Drama", genresBlock "Comedy", authorBlock].flatMap
          Block.events) := by
  have hlist : [genresBlock "Drama", authorBlock, genresBlock "Comedy", listBlock].Perm
      [listBlock, genresBlock "Drama", authorBlock, genresBlock "Comedy"] :=
    List.perm_append_singleton listBlock [genresBlock "Drama", authorBlock, genresBlock "Comedy"]
  refine Rearranges.extract_eq ⟨hlist.trans ?_, fun part => ?_⟩
  · exact ((List.Perm.swap _ _ []).cons _).cons _
  · cases part <;> rfl

end Feuilleton
