import Feuilleton.CommandLine.Report
import Feuilleton.Json.Printer

/-!
# The command that browses a site

It lists one page of the catalogue or of the results of a search.
-/

namespace Feuilleton.CommandLine

namespace Browse

def switches : List Switch := [
  { names := ["--help", "-h"], kind := .help },
  { names := ["--site", "-s"], kind := .text },
  { names := ["--page", "-p"], kind := .number },
  { names := ["--latest"] },
  { names := ["--search"], kind := .text },
  { names := ["--filter"], kind := .text },
  { names := ["--output", "-o"], kind := .text },
  { names := ["--verbose", "-v"] }]

def arguments (texts : List String) : Except Refusal Arguments := do
  let a ← Arguments.read switches false texts
  if (a.text? "--site").isNone then .error .misuse else .ok a

/-- A search, if there is a term to search for. -/
def visit (session : Session) (a : Arguments) : Visit (List ListedWork) :=
  let page := (a.number? "--page").getD 1
  match (a.text? "--search").filter (!·.isEmpty) with
  | some term => session.search term page
  | none =>
      session.fetchListing page (a.hasFlag "--latest") (Filters.ofPairs (a.texts "--filter"))

def result (works : List ListedWork) : String :=
  (Json.arr (works.map ListedWork.encode)).indented

def savedNote (works : List ListedWork) (file : String) : String :=
  "Saved " ++ Text.natText works.length ++ " works to: " ++ file

/-- Failures of pages and sites are complaints. -/
def fail (report : Report) (failure : Failure) : Report :=
  if failure.isExpected then
    { report with
      complaint := linesText ["✗ Error: " ++ failure.message]
      ending := .failed }
  else { report with ending := .broken failure }

def report (setting : Setting) (a : Arguments) : Report :=
  let visit := visit setting.session a
  let report : Report := { requests := visit.requests, timeout := setting.timeout }
  match visit.outcome with
  | .error failure => fail report failure
  | .ok works => deliver report setting a (result works) id (savedNote works)

end Browse

def browse (around : Surroundings) (texts : List String) : Report :=
  match Browse.arguments texts with
  | .error refusal => .ofRefusal refusal
  | .ok a =>
      match Preferences.ofVariables around.environment with
      | .error failure => .ofFailure failure
      | .ok preferences =>
          match prepare around preferences a { now := around.now } with
          | .error failure => Browse.fail {} failure
          | .ok setting => Browse.report setting a

end Feuilleton.CommandLine
