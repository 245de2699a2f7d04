import Feuilleton.CommandLine.Browse
import Feuilleton.CommandLine.Extract
import Std.Time.Format

/-!
# The program

The first argument names a command, the others are its arguments. Pages and grammars are read from
the disk; there is no network.
-/

namespace Feuilleton.CommandLine

/-- The files among some paths, seen from a working directory. -/
def loadFiles (home : Path) (names : List String) : IO Files := do
  let nowhere : Files := { home }
  let mut contents := []
  for name in names do
    if !name.isEmpty then
      try
        let bytes ← IO.FS.readBinFile name
        let place := (Path.ofText name).foldl nowhere.follow (nowhere.start name)
        contents := (place, bytes.toList) :: contents
      catch _ => pure ()
  return { home, contents }

def loadEnvironment : IO Preferences.Variables := do
  let mut environment := []
  for setting in ["HIDE_LOCKED", "LOG_LEVEL", "GRAMMAR_DIR", "USER_AGENT", "TIMEOUT"] do
    let name := Preferences.variablePrefix ++ setting
    match ← IO.getEnv name with
    | some value => environment := (name, value) :: environment
    | none => pure ()
  return environment

/-- The files that arguments can mean: themselves, or a stored grammar. -/
def namedFiles (environment : Preferences.Variables) (texts : List String) : List String :=
  match environment.lookup (Preferences.variablePrefix ++ "GRAMMAR_DIR") with
  | some directory =>
      texts ++ texts.map fun text =>
        Text.trim directory ++ "/" ++ GrammarStore.fileName text
  | none => texts

def clock : IO Moment := do
  let now ← Std.Time.PlainDateTime.now
  let date := Date.ofFields? now.date.year.toNat now.date.month.val.toNat now.date.day.val.toNat
  let second := now.time.hour.val.toNat * 3600 + now.time.minute.val.toNat * 60 +
    now.time.second.val.toNat
  match date with
  | some date => return { date, second := min second 86399 }
  | none => throw (IO.userError "the clock shows no date")

def offline : Web.Network := fun _ => .error "no network"

def exitCode : Ending → UInt32
  | .finished | .refused .help => 0
  | .refused .misuse => 2
  | .failed | .broken _ => 1

def complaintOf (report : Report) : String :=
  match report.ending with
  | .broken failure => report.complaint ++ linesText [failure.message]
  | .refused _ => linesText ["usage: feuilleton (extract | browse) --site SITE ..."]
  | _ => report.complaint

def publish (report : Report) : IO UInt32 := do
  IO.print report.output
  IO.eprint (complaintOf report)
  match report.written with
  | some file => IO.FS.writeFile (Text.join "/" file.path) file.content
  | none => pure ()
  return exitCode report.ending

def run (texts : List String) : IO UInt32 := do
  let environment ← loadEnvironment
  let home := Path.ofText (← IO.currentDir).toString
  let files ← loadFiles home (namedFiles environment texts)
  let around : Surroundings := { files, environment, network := offline, now := ← clock }
  match texts with
  | "extract" :: rest => publish (extract around rest)
  | "browse" :: rest => publish (browse around rest)
  | _ => publish (.ofRefusal .misuse)

end Feuilleton.CommandLine

def main (texts : List String) : IO UInt32 :=
  Feuilleton.CommandLine.run texts
