import Feuilleton.Access.Web
import Feuilleton.Extraction.State
import Feuilleton.Failure

/-!
# Preferences

Settings from the variables of the environment. Blanks around a value do not count, and a blank
value counts as none. All unusable values are reported together.
-/

namespace Feuilleton

structure Preferences where
  hideLocked : Bool := false
  logLevel : String := "INFO"
  grammarDirectory : Option String := none
  userAgent : Option String := none
  timeout : Binary64 := Web.defaultTimeout
  deriving DecidableEq, Repr

namespace Preferences

abbrev Variables := List (String × String)

def variablePrefix : String := "SERIAL_PARSER_"

/-- The variables that are set, under the names of the settings. -/
def settings (environment : Variables) : Members :=
  ["hide_locked", "log_level", "grammar_dir", "user_agent", "timeout"].filterMap fun name =>
    match environment.lookup (variablePrefix ++ name.map Char.toUpper) with
    | none => none
    | some raw =>
        let value := Text.trim raw
        if value.isEmpty then none else some (name, .str value)

def decode : Decoder Preferences :=
  Decoder.record fun members =>
    Preferences.mk <$> Decoder.optional "hide_locked" false Decoder.bool members
      <*> Decoder.optional "log_level" "INFO" Decoder.text members
      <*> Decoder.optional "grammar_dir" none (Decoder.nullable Decoder.text) members
      <*> Decoder.optional "user_agent" none (Decoder.nullable Decoder.text) members
      <*> Decoder.optional "timeout" Web.defaultTimeout Decoder.positiveFloat members

def ofVariables (environment : Variables) : Except Failure Preferences :=
  match decode (.obj (settings environment)) with
  | .valid preferences => .ok preferences
  | .invalid issues => .error (.invalidSettings issues)

def policy (preferences : Preferences) (now : Moment) : Policy :=
  { hideLocked := preferences.hideLocked, now }

def client (preferences : Preferences) : Web.Client :=
  Web.Client.named preferences.userAgent preferences.timeout

end Preferences

end Feuilleton
