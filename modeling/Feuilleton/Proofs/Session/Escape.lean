import Feuilleton.Proofs.Session.SeparateList

/-!
# Failures that escape

A reader of many pages goes on after the failures that pages and sites are known for. What escapes
a visit to a work is a failure of another kind on the network, a list whose address cannot be
written, or an extraction that fails.
-/

namespace Feuilleton

variable {α β : Type}

/-- The failure is none that a reader of many pages goes on after. -/
def Escapes (outcome : Except Failure α) : Prop :=
  ∃ failure, outcome = .error failure ∧ failure.isExpected = false

namespace Escapes

variable {outcome : Except Failure α} {next : α → Except Failure β} {failure : Failure} {value : α}

theorem of_error (h : failure.isExpected = false) :
    Escapes (.error failure : Except Failure α) :=
  ⟨failure, rfl, h⟩

theorem not_ok : ¬Escapes (.ok value : Except Failure α) := by
  rintro ⟨failure, h, -⟩
  cases h

theorem not_error (h : failure.isExpected = true) :
    ¬Escapes (.error failure : Except Failure α) := by
  rintro ⟨failure', hfailure, hescapes⟩
  cases hfailure
  rw [h] at hescapes
  cases hescapes

theorem bind_iff :
    Escapes (outcome >>= next) ↔
      Escapes outcome ∨ ∃ value, outcome = .ok value ∧ Escapes (next value) := by
  constructor
  · rintro ⟨failure, h, hfailure⟩
    rcases bind_eq_error_iff.1 h with h | ⟨value, hvalue, h⟩
    · exact .inl ⟨failure, h, hfailure⟩
    · exact .inr ⟨value, hvalue, failure, h, hfailure⟩
  · rintro (⟨failure, h, hfailure⟩ | ⟨value, hvalue, failure, h, hfailure⟩)
    · exact ⟨failure, bind_eq_error_iff.2 (.inl h), hfailure⟩
    · exact ⟨failure, bind_eq_error_iff.2 (.inr ⟨value, hvalue, h⟩), hfailure⟩

/-- What never escapes itself adds nothing. -/
theorem bind_iff_of_not (h : ∀ value, ¬Escapes (next value)) :
    Escapes (outcome >>= next) ↔ Escapes outcome := by
  rw [bind_iff, or_iff_left]
  rintro ⟨value, -, hvalue⟩
  exact h value hvalue

end Escapes

/-! ## Pages -/

theorem not_escapes_ensureAccess (url : String) (response : Response) (search : Bool) :
    ¬Escapes (ensureAccess url response search) := by
  unfold ensureAccess
  split
  · exact Escapes.not_error rfl
  · dsimp only
    split
    · exact Escapes.not_ok
    · exact Escapes.not_error rfl

theorem not_escapes_eventsOf (body : String) : ¬Escapes (eventsOf body) := by
  unfold eventsOf
  split
  · exact Escapes.not_error rfl
  · exact Escapes.not_ok

theorem escapes_extractEvents_iff {r : Reader} {events : List Event} {path : String} :
    Escapes (r.extractEvents events path) ↔
      ∃ error, extract r.grammar r.policy path events = .error error := by
  unfold Reader.extractEvents
  cases extract r.grammar r.policy path events with
  | error error => exact ⟨fun _ => ⟨error, rfl⟩, fun _ => Escapes.of_error rfl⟩
  | ok work =>
      refine ⟨fun h => absurd h ?_, nofun⟩
      dsimp only
      split
      · exact Escapes.not_error rfl
      · exact Escapes.not_ok

namespace Session

variable {s : Session} {request : Request} {path : String}

theorem escapes_fetchBody_iff {search : Bool} :
    Escapes (s.fetchBody request search).outcome ↔ Escapes (s.transport request) := by
  unfold fetchBody
  rw [Visit.outcome_bind]
  exact Escapes.bind_iff_of_not fun response => not_escapes_ensureAccess _ response search

theorem escapes_readList_iff :
    Escapes (s.readList request).outcome ↔ Escapes (s.transport request) := by
  unfold readList
  rw [Visit.outcome_bind, ← escapes_fetchBody_iff]
  exact Escapes.bind_iff_of_not fun body => not_escapes_eventsOf _

theorem isExpected_of_isBearable {failure : Failure} (h : isBearable failure = true) :
    failure.isExpected = true := by
  cases failure <;> simp_all [isBearable, Failure.isExpected]

theorem escapes_fetchList_iff :
    Escapes (s.fetchList request).outcome ↔ Escapes (s.transport request) := by
  rw [← escapes_readList_iff, fetchList_eq]
  cases h : (s.readList request).outcome with
  | ok later => rw [Visit.outcome_recover_of_ok h]
  | error failure =>
      cases hbearable : isBearable failure with
      | true =>
          rw [Visit.outcome_recover_of_some h (if_pos hbearable)]
          have hexpected := isExpected_of_isBearable hbearable
          exact iff_of_false Escapes.not_ok (Escapes.not_error hexpected)
      | false =>
          have hnone : (if isBearable failure then some ([] : List Event) else none) = none := by
            rw [hbearable]
            rfl
          rw [Visit.outcome_recover_of_none h hnone]

/-! ## Works -/

/-- What escapes the request for a separate list. -/
inductive ListEscapes (s : Session) (path : String) : Prop
  | template {list : ChapterListRequest} {error : Template.Error}
      (hlist : s.grammar.chapterListRequest = some list)
      (h : s.grammar.chapterListUrl list path = .error error)
  | network {list : ChapterListRequest} {url : String}
      (hlist : s.grammar.chapterListRequest = some list)
      (hurl : s.grammar.chapterListUrl list path = .ok url)
      (h : Escapes (s.transport (s.listRequest list path url)))

theorem escapes_fetchChapterList_iff :
    Escapes (s.fetchChapterList path (s.grammar.site ++ path)).outcome ↔ s.ListEscapes path := by
  cases hlist : s.grammar.chapterListRequest with
  | none =>
      unfold fetchChapterList
      rw [hlist]
      refine ⟨fun h => absurd h Escapes.not_ok, fun h => ?_⟩
      cases h with
      | template hsome | network hsome => cases hlist.symm.trans hsome
  | some list =>
      cases hurl : s.grammar.chapterListUrl list path with
      | error error =>
          refine ⟨fun _ => .template hlist hurl, fun _ => ?_⟩
          unfold fetchChapterList
          rw [hlist]
          dsimp only
          rw [hurl]
          exact Escapes.of_error rfl
      | ok url =>
          rw [fetchChapterList_eq hlist hurl, escapes_fetchList_iff]
          refine ⟨fun h => .network hlist hurl h, fun h => ?_⟩
          cases h with
          | template hsome herror =>
              cases hlist.symm.trans hsome
              cases hurl.symm.trans herror
          | network hsome hok h =>
              cases hlist.symm.trans hsome
              cases hurl.symm.trans hok
              exact h

/-- What escapes a visit to a work. -/
inductive WorkEscapes (s : Session) (path : String) : Prop
  | network (h : Escapes (s.transport (s.workRequest path)))
  | list {response : Response} (hresponse : s.transport (s.workRequest path) = .ok response)
      (hpasses : response.Passes (s.workRequest path).url) (h : s.ListEscapes path)
  | extraction {response : Response} {events later : List Event} {error : ExtractionError}
      (hresponse : s.transport (s.workRequest path) = .ok response)
      (hpasses : response.Passes (s.workRequest path).url)
      (hlater : (s.fetchChapterList path (s.grammar.site ++ path)).outcome = .ok later)
      (hevents : eventsOfResponse response = .ok events)
      (h : extract s.grammar s.reader.policy path (events ++ later) = .error error)

theorem escapes_outcome_fetchWork_iff {response : Response}
    (hresponse : s.transport (s.workRequest path) = .ok response)
    (hpasses : response.Passes (s.workRequest path).url) :
    Escapes (s.fetchWork path).outcome ↔ s.ListEscapes path ∨
      ∃ later, (s.fetchChapterList path (s.grammar.site ++ path)).outcome = .ok later ∧
        ∃ events, eventsOfResponse response = .ok events ∧
          ∃ error, extract s.grammar s.reader.policy path (events ++ later) = .error error := by
  have hevents : ¬Escapes (eventsOfResponse response) := not_escapes_eventsOf _
  rw [outcome_fetchWork hresponse hpasses, Escapes.bind_iff, escapes_fetchChapterList_iff]
  simp only [Escapes.bind_iff, hevents, false_or, escapes_extractEvents_iff]
  rfl

theorem escapes_fetchWork_iff : Escapes (s.fetchWork path).outcome ↔ s.WorkEscapes path := by
  constructor
  · intro h
    rw [fetchWork_eq, Visit.outcome_bind, Escapes.bind_iff, escapes_fetchBody_iff] at h
    rcases h with hnetwork | ⟨body, hbody, hrest⟩
    · exact .network hnetwork
    obtain ⟨response, hresponse, hpasses⟩ := exists_of_outcome_fetchBody hbody
    have hwork : Escapes (s.fetchWork path).outcome := by
      rw [fetchWork_eq, Visit.outcome_bind]
      exact Escapes.bind_iff.2 (.inr ⟨body, hbody, hrest⟩)
    rcases (escapes_outcome_fetchWork_iff hresponse hpasses).1 hwork with
      hlist | ⟨later, hlater, events, hevents, error, h⟩
    · exact .list hresponse hpasses hlist
    · exact .extraction hresponse hpasses hlater hevents h
  · intro h
    cases h with
    | network h =>
        rw [fetchWork_eq, Visit.outcome_bind]
        exact Escapes.bind_iff.2 (.inl (escapes_fetchBody_iff.2 h))
    | list hresponse hpasses h =>
        exact (escapes_outcome_fetchWork_iff hresponse hpasses).2 (.inl h)
    | extraction hresponse hpasses hlater hevents h =>
        exact (escapes_outcome_fetchWork_iff hresponse hpasses).2
          (.inr ⟨_, hlater, _, hevents, _, h⟩)

end Session

end Feuilleton
