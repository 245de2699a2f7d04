import Feuilleton.CommandLine.Report
import Feuilleton.Json.Printer
import Feuilleton.Work.Codec

/-!
# The command that extracts works

Every input is a saved page or the path of a work on the site. The result has one entry for each
input, with its work or with the failure that kept it from being read. Only failures that have
nothing to do with pages and sites end the command.
-/

namespace Feuilleton.CommandLine

namespace Extract

def switches : List Switch := [
  { names := ["--help", "-h"], kind := .help },
  { names := ["--site", "-s"], kind := .text },
  { names := ["--output", "-o"], kind := .text },
  { names := ["--hide-locked"] },
  { names := ["--strict"] },
  { names := ["--verbose", "-v"] }]

def arguments (texts : List String) : Except Refusal Arguments := do
  let a ← Arguments.read switches true texts
  if (a.text? "--site").isNone || a.stage = .awaited then .error .misuse else .ok a

/-! ## Entries -/

structure Entry where
  input : String
  outcome : Except Failure Work

namespace Entry

def failureMembers (failure : Failure) : Members :=
  match failure with
  | .blocked reason _ response => [
      ("error", .str "AccessBlocked"),
      ("reason", .str reason),
      ("message", .str failure.message),
      ("details", .obj (match response with
        | some (finalUrl, status) => [("final_url", .str finalUrl), ("status", .int status)]
        | none => []))]
  | _ => [("error", .str failure.message)]

def encode (entry : Entry) : Json :=
  match entry.outcome with
  | .ok work =>
      .obj [("input", .str entry.input), ("status", .str "success"), ("work", work.encode)]
  | .error failure =>
      .obj ([("input", .str entry.input), ("status", .str "error")] ++ failureMembers failure)

def resultLine (entry : Entry) : String :=
  match entry.outcome with
  | .ok work =>
      "  ✓ " ++ (if work.name.isEmpty then "(no name)" else work.name) ++ ": " ++
        Text.natText work.chapters.length ++ " chapters"
  | .error failure =>
      match failure with
      | .blocked _ _ _ => "  ✗ Blocked: " ++ failure.message
      | _ => "  ✗ Error: " ++ failure.message

end Entry

/-! ## Inputs -/

def readInput (setting : Setting) (input : String) : Visit Work :=
  match setting.files.find input with
  | .error failure => Visit.ofExcept (.error failure)
  | .ok (some bytes) =>
      let path := GrammarStore.stem (Path.lastName input)
      Visit.ofExcept (setting.session.reader.readBytes bytes path)
  | .ok none => setting.session.fetchWork input

/-- The entry of an input; failures that are no fault of the page or the site remain failures. -/
def entryOf (setting : Setting) (input : String) : Visit Entry :=
  let entry : Visit Entry := do
    let work ← readInput setting input
    pure { input, outcome := .ok work }
  entry.recover fun failure =>
    if failure.isExpected then some { input, outcome := .error failure } else none

/-- The entries so far, and the input at which the command ended, if it did. -/
structure Progress where
  entries : List Entry := []
  requests : List Request := []
  ended : Option (String × Failure) := none

def readAll (setting : Setting) : List String → Progress
  | [] => {}
  | input :: rest =>
      let visit := entryOf setting input
      match visit.outcome with
      | .error failure => { requests := visit.requests, ended := some (input, failure) }
      | .ok entry =>
          let later := readAll setting rest
          { later with
            entries := entry :: later.entries
            requests := visit.requests ++ later.requests }

/-! ## The command -/

def startLine (input : String) : String :=
  "Extracting: " ++ input

def result (entries : List Entry) : String :=
  (Json.arr (entries.map Entry.encode)).indented

def report (setting : Setting) (a : Arguments) : Report :=
  let progress := readAll setting a.inputs
  let lines := progress.entries.flatMap fun entry => [startLine entry.input, entry.resultLine]
  let report : Report :=
    { output := linesText lines, requests := progress.requests, timeout := setting.timeout }
  match progress.ended with
  | some (input, failure) =>
      { report with
        output := report.output ++ linesText [startLine input]
        ending := .broken failure }
  | none =>
      deliver report setting a (result progress.entries) ("\n" ++ ·) ("\nSaved to: " ++ ·)

/-- The policy of the preferences; a switch also hides locked chapters. -/
def policy (preferences : Preferences) (now : Moment) (a : Arguments) : Policy :=
  let policy := preferences.policy now
  { policy with hideLocked := policy.hideLocked || a.hasFlag "--hide-locked" }

end Extract

def extract (around : Surroundings) (texts : List String) : Report :=
  match Extract.arguments texts with
  | .error refusal => .ofRefusal refusal
  | .ok a =>
      let setting := do
        let preferences ← Preferences.ofVariables around.environment
        prepare around preferences a (Extract.policy preferences around.now a)
      match setting with
      | .error failure => .ofFailure failure
      | .ok setting => Extract.report setting a

end Feuilleton.CommandLine
