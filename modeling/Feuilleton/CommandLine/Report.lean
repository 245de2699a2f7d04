import Feuilleton.CommandLine.Arguments
import Feuilleton.CommandLine.Files
import Feuilleton.Grammar.Store
import Feuilleton.Session.Basic
import Feuilleton.Session.Preferences

/-!
# Commands and their reports

A command sees its arguments and its surroundings and reports what it prints, what it asks the
network for and which file it writes.
-/

namespace Feuilleton.CommandLine

structure Surroundings where
  files : Files := {}
  environment : Preferences.Variables := []
  network : Web.Network
  now : Moment

inductive Ending
  | finished
  | refused (refusal : Refusal)
  /-- Ended with a complaint. -/
  | failed
  /-- Ended where it stood. -/
  | broken (failure : Failure)
  deriving DecidableEq, Repr

structure WrittenFile where
  path : Path
  content : String
  deriving DecidableEq, Repr

structure Report where
  output : String := ""
  complaint : String := ""
  requests : List Request := []
  timeout : Binary64 := Web.defaultTimeout
  written : Option WrittenFile := none
  ending : Ending := .finished
  deriving DecidableEq, Repr

def linesText (lines : List String) : String :=
  Text.join "" (lines.map (· ++ "\n"))

namespace Report

def ofRefusal (refusal : Refusal) : Report := { ending := .refused refusal }

def ofFailure (failure : Failure) : Report := { ending := .broken failure }

end Report

/-! ## Preparation -/

/-- What a command works with. -/
structure Setting where
  session : Session
  timeout : Binary64
  files : Files

/-- The directory of grammars is made if it does not exist. -/
def openStore (files : Files) (directory : Option String) :
    Except Failure (Files × GrammarStore) :=
  match directory with
  | none => .ok (files, {})
  | some text => do
      let (files, place) ← files.openDirectory text
      let directory := Directory.ofContents (Path.normalised text) (files.entries place)
      .ok (files, { directory := some directory })

def prepare (around : Surroundings) (preferences : Preferences) (a : Arguments)
    (policy : Policy) : Except Failure Setting := do
  let (files, store) ← openStore around.files preferences.grammarDirectory
  let grammar ← store.get ((a.text? "--site").getD "")
  let reader := Reader.ofGrammar grammar policy (a.hasFlag "--strict")
  .ok {
    session := { reader, transport := Web.transport around.network }
    timeout := preferences.timeout
    files }

/-! ## Results -/

/-- Where the result of a command goes: into a file, if one is named. -/
def outputFile? (a : Arguments) : Option String :=
  (a.text? "--output").filter (!·.isEmpty)

/-- Adds the result to a report: as text, or as a file and a note about it. -/
def deliver (report : Report) (setting : Setting) (a : Arguments) (result : String)
    (shown : String → String) (note : String → String) : Report :=
  match outputFile? a with
  | none => { report with output := report.output ++ linesText [shown result] }
  | some file =>
      match setting.files.target file with
      | .error failure => { report with ending := .broken failure }
      | .ok path =>
          { report with
            output := report.output ++ linesText [note file]
            written := some ⟨path, result⟩ }

end Feuilleton.CommandLine
