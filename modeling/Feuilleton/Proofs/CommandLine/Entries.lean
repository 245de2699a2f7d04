import Feuilleton.CommandLine.Extract
import Feuilleton.Proofs.Page.Undecodable
import Feuilleton.Proofs.Session.Escape

/-!
# One entry for every input

The command that extracts works writes the entries of all inputs together at its end. An input
whose failure escapes ends it before, and no entry is written, not even of the inputs before it.
Where no failure escapes, every input has the entry that it has by itself.
-/

namespace Feuilleton.CommandLine

/-! ## Paths that cannot be followed -/

namespace Files

variable {files : Files} {place names : Path} {text : String} {failure : Failure}

/-- The way from a place on leads through a name that no directory can hold. -/
inductive MeetsOverlong (files : Files) : Path → Path → Prop
  | here {place rest : Path} {name : String} (hplace : files.isDirectory place = true)
      (h : maxNameBytes < name.utf8ByteSize) : MeetsOverlong files place (name :: rest)
  | there {place next rest : Path} {name : String}
      (hnext : files.walk place [name] = .ok (some next))
      (h : MeetsOverlong files next rest) : MeetsOverlong files place (name :: rest)

theorem walk_cons (files : Files) (place : Path) (name : String) (rest : Path) :
    files.walk place (name :: rest) = files.walk place [name] >>= fun next? =>
      match next? with
      | none => .ok none
      | some next => files.walk next rest := by
  simp only [walk]
  split
  · rfl
  · split <;> rfl

theorem walk_singleton_eq_error_iff {name : String} :
    files.walk place [name] = .error failure ↔ failure = .unusableFile ∧
      files.isDirectory place = true ∧ maxNameBytes < name.utf8ByteSize := by
  simp only [walk]
  cases hplace : files.isDirectory place <;> grind

theorem walk_eq_error_iff : files.walk place names = .error failure ↔
    failure = .unusableFile ∧ files.MeetsOverlong place names := by
  induction names generalizing place with
  | nil => exact ⟨nofun, nofun⟩
  | cons name rest ih =>
      rw [walk_cons, bind_eq_error_iff, walk_singleton_eq_error_iff]
      constructor
      · rintro (⟨rfl, hplace, hname⟩ | ⟨_ | next, hnext, h⟩)
        · exact ⟨rfl, .here hplace hname⟩
        · cases h
        · obtain ⟨rfl, hrest⟩ := ih.1 h
          exact ⟨rfl, .there hnext hrest⟩
      · rintro ⟨rfl, h⟩
        cases h with
        | here hplace hname => exact .inl ⟨rfl, hplace, hname⟩
        | there hnext hrest => exact .inr ⟨_, hnext, ih.2 ⟨rfl, hrest⟩⟩

/-- A written path that is too long, or a name on its way. -/
def IsOverlong (files : Files) (text : String) : Prop :=
  '\x00' ∉ text.toList ∧ (maxPathBytes < (Path.normalised text).utf8ByteSize ∨
    files.MeetsOverlong (files.start text) (Path.ofText text))

theorem resolve_eq_error_iff :
    files.resolve text = .error failure ↔ failure = .unusableFile ∧ files.IsOverlong text := by
  unfold resolve
  by_cases hzero : '\x00' ∈ text.toList
  · rw [if_pos (List.contains_iff_mem.2 hzero)]
    exact ⟨nofun, fun h => absurd hzero h.2.1⟩
  rw [if_neg (mt List.contains_iff_mem.1 hzero)]
  by_cases hsize : maxPathBytes < (Path.normalised text).utf8ByteSize
  · rw [if_pos hsize]
    exact ⟨fun h => ⟨(Except.error.inj h).symm, hzero, .inl hsize⟩, fun h => by rw [h.1]⟩
  · rw [if_neg hsize, walk_eq_error_iff]
    exact and_congr_right fun _ =>
      ⟨fun h => ⟨hzero, .inr h⟩, fun h => h.2.resolve_left hsize⟩

theorem find_eq_error_iff :
    files.find text = .error failure ↔ failure = .unusableFile ∧ files.IsOverlong text := by
  unfold find
  rw [bind_eq_error_iff, resolve_eq_error_iff, or_iff_left]
  rintro ⟨_ | path, -, h⟩ <;> cases h

end Files

namespace Extract

variable {setting : Setting} {input : String}

/-! ## Inputs that end the command -/

/-- What makes the failure of an input escape. -/
inductive BreaksOff (setting : Setting) (input : String) : Prop
  | path (h : setting.files.IsOverlong input)
  | encoding {bytes : Encoding.Bytes} (hfile : setting.files.find input = .ok (some bytes))
      (h : Page.IsUndecodable bytes)
  | extraction {bytes : Encoding.Bytes} {page : Page} {events : List Event}
      {error : ExtractionError} (hfile : setting.files.find input = .ok (some bytes))
      (hpage : Page.ofBytes bytes = .ok page) (hevents : eventsOf page.body = .ok events)
      (h : Feuilleton.extract setting.session.grammar setting.session.reader.policy
        (GrammarStore.stem (Path.lastName input)) events = .error error)
  | visit (hfile : setting.files.find input = .ok none) (h : setting.session.WorkEscapes input)

theorem escapes_readBytes_iff {r : Reader} {bytes : Encoding.Bytes} {path : String} :
    Escapes (r.readBytes bytes path) ↔ Page.IsUndecodable bytes ∨
      ∃ page, Page.ofBytes bytes = .ok page ∧ ∃ events, eventsOf page.body = .ok events ∧
        ∃ error, Feuilleton.extract r.grammar r.policy path events = .error error := by
  rw [← Page.ofBytes_eq_error_iff]
  unfold Reader.readBytes
  cases Page.ofBytes bytes with
  | error error => exact iff_of_true (Escapes.of_error rfl) (.inl ⟨error, rfl⟩)
  | ok page =>
      change Escapes (eventsOf page.body >>= fun events => r.extractEvents events path) ↔ _
      simp [Escapes.bind_iff, not_escapes_eventsOf, escapes_extractEvents_iff]

theorem breaksOff_iff : BreaksOff setting input ↔ Escapes (readInput setting input).outcome := by
  unfold readInput
  cases hfile : setting.files.find input with
  | error failure =>
      obtain ⟨rfl, hoverlong⟩ := Files.find_eq_error_iff.1 hfile
      exact iff_of_true (.path hoverlong) (Escapes.of_error rfl)
  | ok content =>
      have hpath : ¬setting.files.IsOverlong input := by
        intro hoverlong
        cases hfile.symm.trans (Files.find_eq_error_iff.2 ⟨rfl, hoverlong⟩)
      cases content with
      | some bytes =>
          change _ ↔ Escapes (setting.session.reader.readBytes bytes _)
          rw [escapes_readBytes_iff]
          constructor
          · intro h
            cases h with
            | path h => exact absurd h hpath
            | encoding hbytes h =>
                cases hfile.symm.trans hbytes
                exact .inl h
            | extraction hbytes hpage hevents h =>
                cases hfile.symm.trans hbytes
                exact .inr ⟨_, hpage, _, hevents, _, h⟩
            | visit hnone => cases hfile.symm.trans hnone
          · rintro (h | ⟨page, hpage, events, hevents, error, h⟩)
            · exact .encoding hfile h
            · exact .extraction hfile hpage hevents h
      | none =>
          change _ ↔ Escapes (setting.session.fetchWork input).outcome
          rw [Session.escapes_fetchWork_iff]
          refine ⟨fun h => ?_, fun h => .visit hfile h⟩
          cases h with
          | path h => exact absurd h hpath
          | encoding hbytes | extraction hbytes => cases hfile.symm.trans hbytes
          | visit _ h => exact h

/-! ## Entries -/

/-- The entry of an input by itself. -/
def Entry.alone (setting : Setting) (input : String) : Entry where
  input := input
  outcome := (readInput setting input).outcome

theorem entryOf_eq (setting : Setting) (input : String) : entryOf setting input =
    (readInput setting input >>= fun work =>
      (Visit.ofExcept (.ok { input, outcome := .ok work }) : Visit Entry)).recover fun failure =>
        if failure.isExpected then some { input, outcome := .error failure } else none := rfl

theorem outcome_entryOf (h : ¬BreaksOff setting input) :
    (entryOf setting input).outcome = .ok (Entry.alone setting input) := by
  rw [breaksOff_iff] at h
  rw [entryOf_eq]
  unfold Entry.alone
  cases hread : (readInput setting input).outcome with
  | ok work =>
      refine Visit.outcome_recover_of_ok ?_
      rw [Visit.outcome_bind, hread]
      rfl
  | error failure =>
      have hexpected : failure.isExpected = true := by
        refine Classical.byContradiction fun hnot => h ?_
        exact ⟨failure, hread, Bool.eq_false_iff.2 hnot⟩
      refine Visit.outcome_recover_of_some ?_ (if_pos hexpected)
      rw [Visit.outcome_bind, hread]
      rfl

theorem outcome_entryOf_of_breaksOff (h : BreaksOff setting input) :
    ∃ failure, (readInput setting input).outcome = .error failure ∧
      (entryOf setting input).outcome = .error failure := by
  obtain ⟨failure, hread, hescapes⟩ := breaksOff_iff.1 h
  refine ⟨failure, hread, ?_⟩
  rw [entryOf_eq]
  refine Visit.outcome_recover_of_none ?_ (if_neg (Bool.eq_false_iff.1 hescapes))
  rw [Visit.outcome_bind, hread]
  rfl

/-! ## Runs -/

theorem readAll_cons_of_ok {entry : Entry} (h : (entryOf setting input).outcome = .ok entry)
    (rest : List String) :
    (readAll setting (input :: rest)).entries = entry :: (readAll setting rest).entries ∧
      (readAll setting (input :: rest)).ended = (readAll setting rest).ended := by
  simp [readAll, h]

theorem readAll_cons_of_error {failure : Failure}
    (h : (entryOf setting input).outcome = .error failure) (rest : List String) :
    (readAll setting (input :: rest)).entries = [] ∧
      (readAll setting (input :: rest)).ended = some (input, failure) := by
  simp [readAll, h]

/-- The inputs before it do not change what comes of an input. -/
theorem readAll_append {before : List String} (h : ∀ other ∈ before, ¬BreaksOff setting other)
    (rest : List String) :
    (readAll setting (before ++ rest)).entries =
        before.map (Entry.alone setting) ++ (readAll setting rest).entries ∧
      (readAll setting (before ++ rest)).ended = (readAll setting rest).ended := by
  induction before with
  | nil => exact ⟨rfl, rfl⟩
  | cons input before ih =>
      rw [List.forall_mem_cons] at h
      obtain ⟨hentries, hended⟩ := ih h.2
      have hstep := readAll_cons_of_ok (outcome_entryOf h.1) (before ++ rest)
      rw [List.cons_append, hstep.1, hstep.2, hentries, hended]
      exact ⟨rfl, rfl⟩

/-- The first input that breaks off is where the command ends. -/
theorem ended_readAll {before : List String}
    (hbefore : ∀ other ∈ before, ¬BreaksOff setting other) (h : BreaksOff setting input)
    (after : List String) :
    ∃ failure, (readInput setting input).outcome = .error failure ∧
      (readAll setting (before ++ input :: after)).ended = some (input, failure) := by
  obtain ⟨failure, hread, hentry⟩ := outcome_entryOf_of_breaksOff h
  refine ⟨failure, hread, ?_⟩
  rw [(readAll_append hbefore _).2, (readAll_cons_of_error hentry after).2]

theorem exists_first_breaksOff {inputs : List String}
    (h : ∃ input ∈ inputs, BreaksOff setting input) :
    ∃ before input after, inputs = before ++ input :: after ∧
      (∀ other ∈ before, ¬BreaksOff setting other) ∧ BreaksOff setting input := by
  induction inputs with
  | nil =>
      obtain ⟨input, hmem, -⟩ := h
      cases hmem
  | cons first rest ih =>
      by_cases hfirst : BreaksOff setting first
      · exact ⟨[], first, rest, rfl, nofun, hfirst⟩
      · have hrest : ∃ input ∈ rest, BreaksOff setting input := by
          obtain ⟨input, hmem, hinput⟩ := h
          rcases List.mem_cons.1 hmem with rfl | hmem
          · exact absurd hinput hfirst
          · exact ⟨input, hmem, hinput⟩
        obtain ⟨before, input, after, rfl, hbefore, hinput⟩ := ih hrest
        exact ⟨first :: before, input, after, rfl, List.forall_mem_cons.2 ⟨hfirst, hbefore⟩, hinput⟩

theorem readAll_of_forall {inputs : List String} (h : ∀ input ∈ inputs, ¬BreaksOff setting input) :
    (readAll setting inputs).entries = inputs.map (Entry.alone setting) ∧
      (readAll setting inputs).ended = none := by
  obtain ⟨hentries, hended⟩ := readAll_append h []
  rw [List.append_nil] at hentries hended
  exact ⟨hentries.trans (List.append_nil _), hended⟩

/-! ## Reports -/

variable {a : Arguments}

/-- The result can be printed, or its file can be written. -/
def HasOutput (setting : Setting) (a : Arguments) : Prop :=
  ∀ file, outputFile? a = some file → ∃ place, setting.files.target file = .ok place

/-- The command comes to its end with one entry for each input, in the order of the inputs, and each
is the one of its input by itself. -/
inductive WritesEveryEntry (setting : Setting) (a : Arguments) (report : Report) : Prop
  | printed {lines : String} (hfile : outputFile? a = none)
      (h : report.output = lines ++
        linesText ["\n" ++ result (a.inputs.map (Entry.alone setting))])
      (hending : report.ending = .finished)
  | filed {file : String} {place : Path} (hfile : outputFile? a = some file)
      (hplace : setting.files.target file = .ok place)
      (h : report.written = some ⟨place, result (a.inputs.map (Entry.alone setting))⟩)
      (hending : report.ending = .finished)

theorem WritesEveryEntry.ending {report : Report} (h : WritesEveryEntry setting a report) :
    report.ending = .finished := by
  cases h with
  | printed _ _ hending | filed _ _ _ hending => exact hending

/-- Nothing is written behind an input that breaks off. -/
theorem report_of_breaksOff {before after : List String}
    (hinputs : a.inputs = before ++ input :: after)
    (hbefore : ∀ other ∈ before, ¬BreaksOff setting other) (h : BreaksOff setting input) :
    (report setting a).written = none ∧
      ∃ failure, (readInput setting input).outcome = .error failure ∧
        (report setting a).ending = .broken failure := by
  obtain ⟨failure, hread, hended⟩ := ended_readAll hbefore h after
  rw [← hinputs] at hended
  constructor
  · simp [report, hended]
  · exact ⟨failure, hread, by simp [report, hended]⟩

theorem report_of_forall (h : ∀ input ∈ a.inputs, ¬BreaksOff setting input) :
    ∃ begun : Report, begun.ending = .finished ∧ report setting a =
      deliver begun setting a (result (a.inputs.map (Entry.alone setting))) ("\n" ++ ·)
        ("\nSaved to: " ++ ·) := by
  obtain ⟨hentries, hended⟩ := readAll_of_forall h
  unfold report
  dsimp only
  rw [hended, hentries]
  exact ⟨_, rfl, rfl⟩

theorem writesEveryEntry_report (h : ∀ input ∈ a.inputs, ¬BreaksOff setting input) :
    WritesEveryEntry setting a (report setting a) ↔ HasOutput setting a := by
  obtain ⟨begun, hbegun, hreport⟩ := report_of_forall h
  rw [hreport]
  unfold deliver HasOutput
  cases hfile : outputFile? a with
  | none => exact ⟨fun _ => nofun, fun _ => .printed hfile rfl hbegun⟩
  | some file =>
      dsimp only
      cases hplace : setting.files.target file with
      | ok place =>
          refine ⟨fun _ other hother => ?_, fun _ => .filed hfile hplace rfl hbegun⟩
          cases hother
          exact ⟨place, hplace⟩
      | error failure =>
          refine ⟨fun h => ?_, fun h => ?_⟩
          · cases h.ending
          · obtain ⟨place, h⟩ := h file rfl
            cases hplace.symm.trans h

/-! ## The command -/

/-- The arguments can be read, the settings are usable and the site is known. -/
structure Starts (around : Surroundings) (texts : List String) (a : Arguments)
    (setting : Setting) : Prop where
  arguments : Extract.arguments texts = .ok a
  setting : ∃ preferences, Preferences.ofVariables around.environment = .ok preferences ∧
    prepare around preferences a (policy preferences around.now a) = .ok setting

variable {around : Surroundings} {texts : List String}

theorem extract_of_starts (h : Starts around texts a setting) :
    CommandLine.extract around texts = report setting a := by
  obtain ⟨harguments, preferences, hpreferences, hsetting⟩ := h
  have hprepared : (Preferences.ofVariables around.environment >>= fun preferences =>
      prepare around preferences a (policy preferences around.now a)) = .ok setting := by
    rw [hpreferences]
    exact hsetting
  unfold CommandLine.extract
  rw [harguments]
  dsimp only
  rw [hprepared]

/-- The inputs are no part of what the command works with. -/
theorem setting_eq_of_starts {texts' : List String} {a' : Arguments} {setting' : Setting}
    (h : Starts around texts a setting) (h' : Starts around texts' a' setting')
    (hgiven : a'.given = a.given) : setting' = setting := by
  obtain ⟨-, preferences, hpreferences, hsetting⟩ := h
  obtain ⟨-, preferences', hpreferences', hsetting'⟩ := h'
  obtain rfl := Except.ok.inj (hpreferences.symm.trans hpreferences')
  have hsame : prepare around preferences a' (policy preferences around.now a') =
      prepare around preferences a (policy preferences around.now a) := by
    unfold prepare policy Arguments.text? Arguments.texts Arguments.hasFlag
    rw [hgiven]
  rw [hsame, hsetting] at hsetting'
  exact (Except.ok.inj hsetting').symm

/-- Every input has its entry exactly where none of them breaks off and the result has a place to
go. The first one that breaks off ends the command before any entry is written. What the entry of
an input depends on besides is the same for every command that differs in other inputs only. -/
theorem writesEveryEntry_iff (h : Starts around texts a setting) :
    (WritesEveryEntry setting a (CommandLine.extract around texts) ↔
      HasOutput setting a ∧ ∀ input ∈ a.inputs, ¬BreaksOff setting input) ∧
    (∀ before input after, a.inputs = before ++ input :: after →
      (∀ other ∈ before, ¬BreaksOff setting other) → BreaksOff setting input →
      (CommandLine.extract around texts).written = none ∧
        ∃ failure, (readInput setting input).outcome = .error failure ∧
          (CommandLine.extract around texts).ending = .broken failure) ∧
    ∀ texts' a' setting', Starts around texts' a' setting' → a'.given = a.given →
      setting' = setting := by
  have hsame : ∀ texts' a' setting', Starts around texts' a' setting' → a'.given = a.given →
      setting' = setting := fun _ _ _ h' hgiven => setting_eq_of_starts h h' hgiven
  rw [extract_of_starts h]
  refine ⟨⟨fun hwrites => ?_, fun ⟨houtput, hall⟩ => (writesEveryEntry_report hall).2 houtput⟩,
    fun _ _ _ hinputs hbefore hinput => report_of_breaksOff hinputs hbefore hinput, hsame⟩
  have hall : ∀ input ∈ a.inputs, ¬BreaksOff setting input := by
    intro input hmem hinput
    -- the command would have ended at the first input that breaks off
    obtain ⟨before, first, after, hinputs, hbefore, hfirst⟩ :=
      exists_first_breaksOff ⟨input, hmem, hinput⟩
    obtain ⟨-, failure, -, hending⟩ := report_of_breaksOff hinputs hbefore hfirst
    cases hending.symm.trans hwrites.ending
  exact ⟨(writesEveryEntry_report hall).1 hwrites, hall⟩

private def bytesOf (text : String) : Encoding.Bytes :=
  text.toList.map fun c => UInt8.ofNat c.toNat

private def savedPages : Surroundings where
  files := { contents := [
    (["a.html"], bytesOf "<meta charset=undefined>"),
    (["b.html"], bytesOf "<h1 class=entry-title>B</h1>"),
    (["..", "pages", "c.html"], bytesOf "<h1 class=entry-title>C</h1>")] }
  network := fun _ => .error "no route to host"
  now := ⟨⟨2024, 1, 10⟩, 0⟩

private def savedSetting : Setting where
  session := {
    reader := .ofGrammar (.lightNovel {
      id := "knoxt"
      sourceName := "KnoxT"
      site := "https://knoxt.space/"
      reverseChapters := true }) { now := savedPages.now } false
    transport := Web.transport savedPages.network }
  timeout := Web.defaultTimeout
  files := savedPages.files

private def bothPages : Arguments where
  given := [("--site", .text "knoxt")]
  inputs := ["a.html", "b.html"]
  stage := .reading

private def pagesAndWork : Arguments where
  given := [("--site", .text "knoxt"), ("--output", .text "out.json")]
  inputs := ["b.html", "w/", "/pages/c.html"]
  stage := .reading

/-- A page in no encoding of text keeps the entry of the page after it from being written. -/
theorem not_writesEveryEntry_undecodablePage :
    Starts savedPages ["--site", "knoxt", "a.html", "b.html"] bothPages savedSetting ∧
      (Entry.alone savedSetting "b.html").outcome.isOk = true ∧
      ¬WritesEveryEntry savedSetting bothPages
        (CommandLine.extract savedPages ["--site", "knoxt", "a.html", "b.html"]) := by
  have hending : (CommandLine.extract savedPages ["--site", "knoxt", "a.html", "b.html"]).ending =
      .broken (.encoding .undefined) := by
    decide +kernel
  refine ⟨⟨rfl, {}, rfl, rfl⟩, by decide +kernel, fun hwrites => ?_⟩
  cases hending.symm.trans hwrites.ending

/-- Two pages, one of them outside the working directory, and a work of a site that cannot be
reached have an entry each. -/
theorem writesEveryEntry_unreachableWork :
    Starts savedPages
        ["--site", "knoxt", "-o", "out.json", "b.html", "w/", "/pages/c.html"] pagesAndWork
        savedSetting ∧
      WritesEveryEntry savedSetting pagesAndWork (CommandLine.extract savedPages
        ["--site", "knoxt", "-o", "out.json", "b.html", "w/", "/pages/c.html"]) := by
  have hstarts : Starts savedPages
      ["--site", "knoxt", "-o", "out.json", "b.html", "w/", "/pages/c.html"] pagesAndWork
      savedSetting := ⟨rfl, {}, rfl, rfl⟩
  have hpages : ∀ input ∈ ["b.html", "/pages/c.html"], ¬BreaksOff savedSetting input := by
    have hok : ∀ input ∈ ["b.html", "/pages/c.html"],
        (readInput savedSetting input).outcome.isOk = true := by decide +kernel
    intro input hmem
    rw [breaksOff_iff]
    rintro ⟨failure, hfailure, -⟩
    have hread := hok input hmem
    rw [hfailure] at hread
    cases hread
  have hwork : ¬BreaksOff savedSetting "w/" := by
    have hread : (readInput savedSetting "w/").outcome =
        .error (.unreachable "https://knoxt.space/w/" 0 (some "no route to host")) := rfl
    rw [breaksOff_iff, hread]
    exact Escapes.not_error rfl
  refine ⟨hstarts, (writesEveryEntry_iff hstarts).1.2 ⟨fun file hfile => ?_, ?_⟩⟩
  · cases hfile
    exact ⟨["out.json"], rfl⟩
  · obtain ⟨hfirst, hlast⟩ := List.forall_mem_cons.1 hpages
    exact List.forall_mem_cons.2 ⟨hfirst, List.forall_mem_cons.2 ⟨hwork, hlast⟩⟩

end Extract

end Feuilleton.CommandLine
