import Feuilleton.Grammar.Theme
import Feuilleton.Proofs.Success
import Feuilleton.Session.Basic

/-!
# Separate chapter lists

Where a site serves the chapter list by itself, a work takes two requests, the second one only
behind a page that passes the guard. A list that cannot be had costs its chapters and nothing else;
one that is blocked fails the work, whatever its page holds.
-/

namespace Feuilleton

/-! ## Visits -/

namespace Visit

variable {α β : Type} {visit : Visit α} {next : α → Visit β}

theorem outcome_bind (visit : Visit α) (next : α → Visit β) :
    (visit >>= next).outcome = visit.outcome >>= fun value => (next value).outcome := by
  change (Visit.bind visit next).outcome = _
  unfold Visit.bind
  cases visit.outcome <;> rfl

theorem requests_bind_of_ok {value : α} (h : visit.outcome = .ok value) :
    (visit >>= next).requests = visit.requests ++ (next value).requests := by
  change (Visit.bind visit next).requests = _
  unfold Visit.bind
  rw [h]

theorem requests_bind_of_error {failure : Failure} (h : visit.outcome = .error failure) :
    (visit >>= next).requests = visit.requests := by
  change (Visit.bind visit next).requests = _
  unfold Visit.bind
  rw [h]

variable {handle : Failure → Option α} {failure : Failure}

theorem outcome_recover_of_ok {value : α} (h : visit.outcome = .ok value) :
    (visit.recover handle).outcome = .ok value := by
  simp [recover, h]

theorem outcome_recover_of_some {value : α} (h : visit.outcome = .error failure)
    (hvalue : handle failure = some value) : (visit.recover handle).outcome = .ok value := by
  simp [recover, h, hvalue]

theorem outcome_recover_of_none (h : visit.outcome = .error failure)
    (hnone : handle failure = none) : (visit.recover handle).outcome = .error failure := by
  simp [recover, h, hnone]

end Visit

/-! ## The guard -/

namespace Response

/-- The response comes from another host, the last labels of hosts aside, or shows one of the titles
that keep robots out. -/
def IsBarred (response : Response) (url : String) : Prop :=
  Verdict.hostLabels url ≠ Verdict.hostLabels response.finalUrl ∨
    ∃ title, Page.titleOf response.body = some title ∧ Verdict.isChallenge title = true

/-- The other host is the reason where there are two. -/
def barReason (response : Response) (url : String) : String :=
  if Verdict.hostLabels url ≠ Verdict.hostLabels response.finalUrl then Verdict.redirected
  else Verdict.challengePage

def Passes (response : Response) (url : String) : Prop :=
  response.succeeded = true ∧ ¬response.IsBarred url

variable {response : Response} {url : String}

theorem verdict_of_isBarred (h : response.IsBarred url) :
    response.verdict url = Verdict.block (response.barReason url) := by
  unfold Response.verdict Verdict.ofPage barReason
  by_cases hhosts : Verdict.hostLabels url = Verdict.hostLabels response.finalUrl
  · have hchallenge := (Option.any_eq_true _ _).2 (h.resolve_left (not_not_intro hhosts))
    simp [hhosts, hchallenge]
  · simp [hhosts]

theorem verdict_of_not_isBarred (h : ¬response.IsBarred url) :
    response.verdict url = Verdict.pass := by
  unfold IsBarred at h
  rw [not_or] at h
  unfold Response.verdict Verdict.ofPage
  rw [if_neg h.1, if_neg]
  rw [Option.any_eq_true]
  exact h.2

end Response

section Guard

variable {response : Response} {url : String}

theorem ensureAccess_of_failed (h : response.succeeded = false) :
    ensureAccess url response false = .error (.unreachable url response.status none) := by
  simp [ensureAccess, h]

theorem ensureAccess_of_barred (h : response.succeeded = true) (hbarred : response.IsBarred url) :
    ensureAccess url response false =
      .error (.blocked (response.barReason url) url (some (response.finalUrl, response.status))) := by
  simp [ensureAccess, h, Response.verdict_of_isBarred hbarred, Verdict.block]

theorem ensureAccess_of_passes (h : response.Passes url) :
    ensureAccess url response false = .ok response.body := by
  simp [ensureAccess, h.1, Response.verdict_of_not_isBarred h.2, Verdict.pass]

theorem ensureAccess_of_not_passes (h : ¬response.Passes url) :
    ∃ failure, ensureAccess url response false = .error failure := by
  cases hstatus : response.succeeded with
  | false => exact ⟨_, ensureAccess_of_failed hstatus⟩
  | true =>
      have hbarred : response.IsBarred url := Classical.not_not.1 fun hnot => h ⟨hstatus, hnot⟩
      exact ⟨_, ensureAccess_of_barred hstatus hbarred⟩

end Guard

namespace Session

variable {s : Session} {request : Request} {response answer : Response} {path url : String}

theorem requests_fetchBody (s : Session) (request : Request) (search : Bool) :
    (s.fetchBody request search).requests = [request] := by
  unfold fetchBody
  cases h : (Visit.fetch s.transport request).outcome with
  | error failure => exact Visit.requests_bind_of_error h
  | ok response => exact Visit.requests_bind_of_ok h

theorem outcome_fetchBody (h : s.transport request = .ok response) (search : Bool) :
    (s.fetchBody request search).outcome = ensureAccess request.url response search := by
  unfold fetchBody
  rw [Visit.outcome_bind]
  change (s.transport request >>= _) = _
  rw [h]
  rfl

theorem outcome_fetchBody_of_error {failure : Failure} (h : s.transport request = .error failure)
    (search : Bool) : (s.fetchBody request search).outcome = .error failure := by
  unfold fetchBody
  rw [Visit.outcome_bind]
  change (s.transport request >>= _) = _
  rw [h]
  rfl

/-- Only the body of a response that passes is handed on. -/
theorem exists_of_outcome_fetchBody {body : String}
    (h : (s.fetchBody request false).outcome = .ok body) :
    ∃ response, s.transport request = .ok response ∧ response.Passes request.url := by
  cases hresponse : s.transport request with
  | error failure =>
      rw [outcome_fetchBody_of_error hresponse] at h
      contradiction
  | ok response =>
      refine ⟨response, rfl, Classical.not_not.1 fun hnot => ?_⟩
      obtain ⟨failure, hfailure⟩ := ensureAccess_of_not_passes hnot
      rw [outcome_fetchBody hresponse, hfailure] at h
      contradiction

/-! ## The list -/

/-- The events of a response; a blank page cannot be read. -/
def eventsOfResponse (response : Response) : Except Failure (List Event) :=
  eventsOf (Page.ofText response.body).body

def readList (s : Session) (request : Request) : Visit (List Event) :=
  s.fetchBody request false >>= fun body => Visit.ofExcept (eventsOf (Page.ofText body).body)

/-- No list is to be had, and no one is to blame but the site that serves it. -/
inductive LosesList (s : Session) (request : Request) : Prop
  | unreachable {url : String} {status : Int} {cause : Option String}
      (h : s.transport request = .error (.unreachable url status cause))
  | refused {answer : Response} (h : s.transport request = .ok answer)
      (hstatus : answer.succeeded = false)
  | unreadable {answer : Response} {failure : Failure} (h : s.transport request = .ok answer)
      (hpasses : answer.Passes request.url) (hevents : eventsOfResponse answer = .error failure)

theorem eq_of_eventsOf_eq_error {body : String} {failure : Failure}
    (h : eventsOf body = .error failure) : failure = .emptyDocument := by
  unfold eventsOf at h
  split at h
  · exact (Except.error.inj h).symm
  · cases h

theorem fetchList_eq (s : Session) (request : Request) : s.fetchList request =
    (s.readList request).recover fun failure => if isBearable failure then some [] else none := rfl

theorem requests_fetchList (s : Session) (request : Request) :
    (s.fetchList request).requests = [request] := by
  have hbody := requests_fetchBody s request false
  change (s.fetchBody request false >>= _).requests = [request]
  cases h : (s.fetchBody request false).outcome with
  | error failure => rw [Visit.requests_bind_of_error h, hbody]
  | ok body => rw [Visit.requests_bind_of_ok h, hbody]; rfl

theorem outcome_readList_of_error {failure : Failure} (h : s.transport request = .error failure) :
    (s.readList request).outcome = .error failure := by
  unfold readList
  rw [Visit.outcome_bind, outcome_fetchBody_of_error h]
  rfl

theorem outcome_readList (h : s.transport request = .ok answer) :
    (s.readList request).outcome = ensureAccess request.url answer false >>= fun body =>
      eventsOf (Page.ofText body).body := by
  unfold readList
  rw [Visit.outcome_bind, outcome_fetchBody h]
  rfl

theorem outcome_readList_of_passes (h : s.transport request = .ok answer)
    (hpasses : answer.Passes request.url) :
    (s.readList request).outcome = eventsOfResponse answer := by
  rw [outcome_readList h, ensureAccess_of_passes hpasses]
  rfl

theorem outcome_fetchList_of_bearable {failure : Failure}
    (h : (s.readList request).outcome = .error failure) (hbearable : isBearable failure = true) :
    (s.fetchList request).outcome = .ok [] := by
  rw [fetchList_eq]
  exact Visit.outcome_recover_of_some h (if_pos hbearable)

theorem outcome_fetchList_of_loses (h : s.LosesList request) :
    (s.fetchList request).outcome = .ok [] := by
  cases h with
  | unreachable h => exact outcome_fetchList_of_bearable (outcome_readList_of_error h) rfl
  | refused h hstatus =>
      have hread := outcome_readList h
      rw [ensureAccess_of_failed hstatus] at hread
      exact outcome_fetchList_of_bearable hread rfl
  | unreadable h hpasses hevents =>
      have hread := (outcome_readList_of_passes h hpasses).trans hevents
      rw [eq_of_eventsOf_eq_error hevents] at hread
      exact outcome_fetchList_of_bearable hread rfl

theorem outcome_fetchList_of_barred (h : s.transport request = .ok answer)
    (hstatus : answer.succeeded = true) (hbarred : answer.IsBarred request.url) :
    (s.fetchList request).outcome = .error (.blocked (answer.barReason request.url) request.url
      (some (answer.finalUrl, answer.status))) := by
  rw [fetchList_eq]
  refine Visit.outcome_recover_of_none ?_ rfl
  rw [outcome_readList h, ensureAccess_of_barred hstatus hbarred]
  rfl

theorem outcome_fetchList_of_read {later : List Event} (h : s.transport request = .ok answer)
    (hpasses : answer.Passes request.url) (hevents : eventsOfResponse answer = .ok later) :
    (s.fetchList request).outcome = .ok later := by
  rw [fetchList_eq]
  exact Visit.outcome_recover_of_ok ((outcome_readList_of_passes h hpasses).trans hevents)

/-! ## The work -/

def workRequest (s : Session) (path : String) : Request where
  url := s.grammar.site ++ path

def listRequest (s : Session) (list : ChapterListRequest) (path url : String) : Request where
  url := url
  method := list.method
  data := if list.data.entries.isEmpty then none else some list.data
  referrer := some (s.grammar.site ++ path)

/-- The same session for a site that shows its chapters on the page of the work. -/
def withoutList (s : Session) : Session :=
  { s with reader := { s.reader with grammar := { s.grammar with chapterListRequest := none } } }

theorem fetchChapterList_eq {list : ChapterListRequest}
    (hlist : s.grammar.chapterListRequest = some list)
    (hurl : s.grammar.chapterListUrl list path = .ok url) :
    s.fetchChapterList path (s.grammar.site ++ path) =
      s.fetchList (s.listRequest list path url) := by
  unfold fetchChapterList
  rw [hlist]
  dsimp only
  rw [hurl]
  rfl

/-- What follows the first request. -/
def visitRest (s : Session) (path body : String) : Visit Work :=
  s.fetchChapterList path (s.grammar.site ++ path) >>= fun later =>
    Visit.ofExcept (eventsOf (Page.ofText body).body) >>= fun events =>
      Visit.ofExcept (s.reader.extractEvents (events ++ later) path)

theorem fetchWork_eq (s : Session) (path : String) :
    s.fetchWork path = s.fetchBody (s.workRequest path) false >>= s.visitRest path := rfl

theorem requests_visitRest (s : Session) (path body : String) :
    (s.visitRest path body).requests =
      (s.fetchChapterList path (s.grammar.site ++ path)).requests := by
  unfold visitRest
  cases h : (s.fetchChapterList path (s.grammar.site ++ path)).outcome with
  | error failure => exact Visit.requests_bind_of_error h
  | ok later =>
      rw [Visit.requests_bind_of_ok h]
      cases eventsOf (Page.ofText body).body <;> exact List.append_nil _

theorem outcome_visitRest (s : Session) (path body : String) :
    (s.visitRest path body).outcome =
      (s.fetchChapterList path (s.grammar.site ++ path)).outcome >>= fun later =>
        eventsOf (Page.ofText body).body >>= fun events =>
          s.reader.extractEvents (events ++ later) path := by
  unfold visitRest
  simp only [Visit.outcome_bind]
  rfl

/-- A page that does not pass is the end of the visit. -/
theorem requests_fetchWork_of_not_passes
    (h : ∀ response, s.transport (s.workRequest path) = .ok response →
      ¬response.Passes (s.workRequest path).url) :
    (s.fetchWork path).requests = [s.workRequest path] := by
  have hfails : ∃ failure, (s.fetchBody (s.workRequest path) false).outcome = .error failure := by
    cases hresponse : s.transport (s.workRequest path) with
    | error failure => exact ⟨failure, outcome_fetchBody_of_error hresponse false⟩
    | ok response =>
        rw [outcome_fetchBody hresponse]
        exact ensureAccess_of_not_passes (h response hresponse)
  obtain ⟨failure, hfailure⟩ := hfails
  rw [fetchWork_eq, Visit.requests_bind_of_error hfailure, requests_fetchBody]

section Passes

variable (h : s.transport (s.workRequest path) = .ok response)
  (hpasses : response.Passes (s.workRequest path).url)

include h hpasses

theorem outcome_fetchBody_workRequest :
    (s.fetchBody (s.workRequest path) false).outcome = .ok response.body :=
  (outcome_fetchBody h false).trans (ensureAccess_of_passes hpasses)

theorem requests_fetchWork : (s.fetchWork path).requests =
    s.workRequest path :: (s.fetchChapterList path (s.grammar.site ++ path)).requests := by
  rw [fetchWork_eq, Visit.requests_bind_of_ok (outcome_fetchBody_workRequest h hpasses),
    requests_fetchBody, requests_visitRest]
  rfl

theorem outcome_fetchWork : (s.fetchWork path).outcome =
    (s.fetchChapterList path (s.grammar.site ++ path)).outcome >>= fun later =>
      eventsOfResponse response >>= fun events =>
        s.reader.extractEvents (events ++ later) path := by
  rw [fetchWork_eq, Visit.outcome_bind, outcome_fetchBody_workRequest h hpasses]
  exact outcome_visitRest s path response.body

theorem outcome_fetchWork_withoutList : (s.withoutList.fetchWork path).outcome =
    eventsOfResponse response >>= fun events => s.reader.extractEvents events path := by
  have houtcome := outcome_fetchWork (s := s.withoutList) h hpasses
  rw [houtcome]
  change (eventsOfResponse response >>= fun events =>
    s.withoutList.reader.extractEvents (events ++ []) path) = _
  simp only [List.append_nil]
  rfl

end Passes

/-- What the second request can come to. A list that is lost costs its chapters only, a barred one
fails the work even if its page cannot be read, and any other one is read behind the page. -/
theorem fetchWork_of_separate_list {list : ChapterListRequest}
    (hlist : s.grammar.chapterListRequest = some list)
    (hurl : s.grammar.chapterListUrl list path = .ok url) :
    ((∀ response, s.transport (s.workRequest path) = .ok response →
        ¬response.Passes (s.workRequest path).url) →
      (s.fetchWork path).requests = [s.workRequest path]) ∧
    ∀ response, s.transport (s.workRequest path) = .ok response →
      response.Passes (s.workRequest path).url →
      (s.fetchWork path).requests = [s.workRequest path, s.listRequest list path url] ∧
      (s.LosesList (s.listRequest list path url) →
        (s.fetchWork path).outcome = (s.withoutList.fetchWork path).outcome) ∧
      ∀ answer, s.transport (s.listRequest list path url) = .ok answer →
        (answer.succeeded = true → answer.IsBarred url →
          (s.fetchWork path).outcome = .error (.blocked (answer.barReason url) url
            (some (answer.finalUrl, answer.status)))) ∧
        (¬s.LosesList (s.listRequest list path url) → ¬answer.IsBarred url →
          ∃ later, eventsOfResponse answer = .ok later ∧
            (s.fetchWork path).outcome = eventsOfResponse response >>= fun events =>
              s.reader.extractEvents (events ++ later) path) := by
  refine ⟨requests_fetchWork_of_not_passes, fun response h hpasses => ?_⟩
  have hsecond := fetchChapterList_eq hlist hurl
  have houtcome := outcome_fetchWork h hpasses
  rw [hsecond] at houtcome
  refine ⟨?_, fun hloses => ?_, fun answer hanswer => ⟨fun hstatus hbarred => ?_,
    fun hkept hbarred => ?_⟩⟩
  · rw [requests_fetchWork h hpasses, hsecond, requests_fetchList]
  · rw [houtcome, outcome_fetchList_of_loses hloses, outcome_fetchWork_withoutList h hpasses]
    change (eventsOfResponse response >>= fun events =>
      s.reader.extractEvents (events ++ []) path) = _
    simp only [List.append_nil]
  · rw [houtcome, outcome_fetchList_of_barred hanswer hstatus hbarred]
    rfl
  · have hstatus : answer.succeeded = true := by
      cases hrefused : answer.succeeded with
      | true => rfl
      | false => exact absurd (.refused hanswer hrefused) hkept
    have hread : answer.Passes url := ⟨hstatus, hbarred⟩
    cases hevents : eventsOfResponse answer with
    | error failure => exact absurd (.unreadable hanswer hread hevents) hkept
    | ok later =>
        refine ⟨later, rfl, ?_⟩
        rw [houtcome, outcome_fetchList_of_read hanswer hread hevents]
        rfl

private def separateSite : Grammar := .lightNovel {
  id := "t"
  sourceName := "T"
  site := "https://e.com/"
  chapterListRequest := some {} }

/-- Every page is blank, and the list has the answer. -/
private def barredSession (answer : Response) : Session where
  reader := {
    grammar := separateSite
    policy := { now := ⟨⟨2024, 1, 10⟩, 0⟩ } }
  transport := fun request =>
    if request.method = "POST" then .ok answer
    else .ok { status := 200, finalUrl := request.url, body := "  " }

private def otherHostAnswer : Response where
  status := 200
  finalUrl := "https://robots.org/e"

private def challengeAnswer : Response where
  status := 200
  finalUrl := "https://e.com/w/ajax/chapters/"
  body := "<title>Just a moment...</title>"

/-- The page of the work is blank, and its list is answered by another host or by a challenge. -/
theorem fetchWork_barredSession :
    ((barredSession otherHostAnswer).fetchWork "w/").requests = [
      { url := "https://e.com/w/" },
      { url := "https://e.com/w/ajax/chapters/", method := "POST",
        referrer := some "https://e.com/w/" }] ∧
    ((barredSession otherHostAnswer).fetchWork "w/").outcome = .error (.blocked "redirected"
      "https://e.com/w/ajax/chapters/" (some ("https://robots.org/e", 200))) ∧
    ((barredSession challengeAnswer).fetchWork "w/").outcome = .error (.blocked "challenge-page"
      "https://e.com/w/ajax/chapters/" (some ("https://e.com/w/ajax/chapters/", 200))) := by
  have hurl : separateSite.chapterListUrl {} "w/" = .ok "https://e.com/w/ajax/chapters/" := rfl
  have hpasses : Response.Passes ⟨200, "https://e.com/w/", "  "⟩ "https://e.com/w/" := by
    refine ⟨rfl, ?_⟩
    rintro (hhosts | ⟨title, htitle, -⟩)
    · exact hhosts rfl
    · cases htitle
  obtain ⟨-, hother⟩ :=
    fetchWork_of_separate_list (s := barredSession otherHostAnswer) rfl hurl
  obtain ⟨hrequests, -, hanswer⟩ := hother _ rfl hpasses
  have hredirected := (hanswer _ rfl).1 rfl (.inl (by decide))
  obtain ⟨-, hsame⟩ :=
    fetchWork_of_separate_list (s := barredSession challengeAnswer) rfl hurl
  obtain ⟨-, -, hanswer⟩ := hsame _ rfl hpasses
  have htitle : Page.titleOf challengeAnswer.body = some "Just a moment..." := by decide +kernel
  have hchallenged := (hanswer _ rfl).1 rfl (.inr ⟨_, htitle, by decide⟩)
  exact ⟨hrequests, hredirected, hchallenged⟩

end Session

end Feuilleton
