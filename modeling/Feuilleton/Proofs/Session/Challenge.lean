import Feuilleton.Proofs.Page.Repair
import Feuilleton.Proofs.Session.SeparateList

/-!
# Challenges in disguise

The guard judges a page as it was sent, but the page is read as it was repaired. A page whose title
only the repair turns into that of a challenge passes the guard. Different line ends are no such
disguise, so the repair gives warning of every page in one.
-/

namespace Feuilleton

namespace Page

variable {cs : List Char} {body : String}

/-! ## Repair without warning -/

theorem text_repairList (h : (repairList cs).warnings = []) :
    (repairList cs).text = Text.unifyLineEnds cs :=
  (text_of_warnings h).2

theorem titleOf_eq (body : String) : titleOf body =
    (titleChars? body.toList).map fun title => String.ofList (Text.trimList title) := rfl

theorem title_ofText_of_warnings (h : (ofText body).warnings = []) : (ofText body).title =
    (titleOf body).map fun title => String.ofList (Text.unifyLineEnds title.toList) := by
  have htext := text_repairList h
  change titleOf (String.ofList (repairList body.toList).text) = _
  rw [titleOf_eq, titleOf_eq, String.toList_ofList, htext, titleChars?_unifyLineEnds]
  cases titleChars? body.toList with
  | none => rfl
  | some title => simp [Text.trimList_unifyLineEnds]

/-! ## Titles of challenges -/

def IsChallengeTitle (title : Option String) : Prop :=
  ∃ text, title = some text ∧ text ∈ Verdict.challengeTitles

/-- The repair turns the title into that of a challenge. -/
def IsDisguised (body : String) : Prop :=
  IsChallengeTitle (ofText body).title ∧ ¬IsChallengeTitle (titleOf body)

theorem not_mem_of_mem_challengeTitles {title : String} (h : title ∈ Verdict.challengeTitles) :
    '\n' ∉ title.toList := by
  have hall : ∀ title ∈ Verdict.challengeTitles, '\n' ∉ title.toList := by decide
  exact hall title h

theorem warnings_of_isDisguised (h : IsDisguised body) : (ofText body).warnings ≠ [] := by
  obtain ⟨⟨text, htitle, hmem⟩, hnot⟩ := h
  intro hwarnings
  rw [title_ofText_of_warnings hwarnings] at htitle
  obtain ⟨title, hsent, rfl⟩ := Option.map_eq_some_iff.1 htitle
  -- the title of a challenge is a single line
  have hline := not_mem_of_mem_challengeTitles hmem
  rw [String.toList_ofList] at hline
  rw [Text.unifyLineEnds_eq_self hline, String.ofList_toList] at hmem
  exact hnot ⟨title, hsent, hmem⟩

theorem isTrimmed_of_titleOf {title : String} (h : titleOf body = some title) :
    Text.IsTrimmed title := by
  obtain ⟨_, -, rfl⟩ := Option.map_eq_some_iff.1 h
  exact Text.isTrimmed_trimList _

end Page

open Page

theorem Response.isBarred_of_isChallengeTitle {response : Response} (url : String)
    (h : IsChallengeTitle (titleOf response.body)) : response.IsBarred url := by
  obtain ⟨title, htitle, hmem⟩ := h
  refine .inr ⟨title, htitle, ?_⟩
  rw [Verdict.isChallenge, (isTrimmed_of_titleOf htitle).trim_eq]
  exact List.contains_iff_mem.2 hmem

namespace Session

variable {s : Session} {path : String} {response : Response}

/-! ## Pages that are read -/

/-- The page is read, for a work or for a chapter. -/
def IsRead (s : Session) (path : String) : Prop :=
  (∃ work, (s.fetchWork path).outcome = .ok work) ∨
    ∃ text, (s.fetchChapter path).outcome = .ok text

/-- No page is read that has the title of a challenge. -/
def KeepsChallengesOut (s : Session) (path : String) : Prop :=
  s.IsRead path → ∀ response, s.transport (s.workRequest path) = .ok response →
    ¬IsChallengeTitle (Page.ofText response.body).title

theorem outcome_fetchBody_of_isRead (h : s.IsRead path) :
    ∃ body, (s.fetchBody (s.workRequest path) false).outcome = .ok body := by
  rcases h with ⟨work, hwork⟩ | ⟨text, htext⟩
  · rw [fetchWork_eq, Visit.outcome_bind] at hwork
    obtain ⟨body, hbody, -⟩ := exists_of_bind_eq_ok hwork
    exact ⟨body, hbody⟩
  · unfold fetchChapter at htext
    rw [Visit.outcome_bind] at htext
    obtain ⟨body, hbody, -⟩ := exists_of_bind_eq_ok htext
    exact ⟨body, hbody⟩

theorem passes_of_isRead (h : s.IsRead path)
    (hresponse : s.transport (s.workRequest path) = .ok response) :
    response.Passes (s.workRequest path).url := by
  obtain ⟨body, hbody⟩ := outcome_fetchBody_of_isRead h
  obtain ⟨response', hresponse', hpasses⟩ := exists_of_outcome_fetchBody hbody
  cases hresponse.symm.trans hresponse'
  exact hpasses

/-- Challenges are kept out exactly where no page in disguise is read, and of each of these the
repair gives warning. -/
theorem keepsChallengesOut_iff (s : Session) (path : String) :
    (s.KeepsChallengesOut path ↔
      ∀ response, s.transport (s.workRequest path) = .ok response →
        IsDisguised response.body → ¬s.IsRead path) ∧
    ∀ body, IsDisguised body → (Page.ofText body).warnings ≠ [] := by
  refine ⟨⟨fun hkeeps response hresponse hdisguised hread => ?_,
    fun hunread hread response hresponse htitle => ?_⟩, fun _ => warnings_of_isDisguised⟩
  · exact hkeeps hread response hresponse hdisguised.1
  · have hpasses := passes_of_isRead hread hresponse
    refine hunread response hresponse ⟨htitle, fun hsent => ?_⟩ hread
    exact hpasses.2 (Response.isBarred_of_isChallengeTitle _ hsent)

private def disguisedSession : Session where
  reader := {
    grammar := .lightNovel {
      id := "t"
      sourceName := "T"
      site := "https://e.com/" }
    policy := { now := ⟨⟨2024, 1, 10⟩, 0⟩ } }
  transport := fun request => .ok {
    status := 200
    finalUrl := request.url
    body := "<title>Just a mo\x01ment...</title>" }

/-- A control character is all that the challenge hides behind. -/
theorem not_keepsChallengesOut_disguisedSession : ¬disguisedSession.KeepsChallengesOut "w/" := by
  have hread : (disguisedSession.fetchWork "w/").outcome.isOk = true := by decide +kernel
  have htitle : (Page.ofText "<title>Just a mo\x01ment...</title>").title =
      some "Just a moment..." := by
    decide +kernel
  intro hkeeps
  cases hwork : (disguisedSession.fetchWork "w/").outcome with
  | error failure =>
      rw [hwork] at hread
      contradiction
  | ok work => exact hkeeps (.inl ⟨work, hwork⟩) _ rfl ⟨_, htitle, by decide⟩

end Session

end Feuilleton
