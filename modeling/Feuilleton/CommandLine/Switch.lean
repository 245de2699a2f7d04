import Feuilleton.Schema.Scalar
import Feuilleton.Text.Search

/-!
# Switches

A switch has a short and a long name. Long names may be cut short as long as it is clear which
switch is meant; a value stands in the next argument, behind an equals sign, or directly behind a
short name. What looks like a negative number is a value.
-/

namespace Feuilleton.CommandLine

inductive SwitchKind
  | flag
  | text
  | number
  | help
  deriving DecidableEq, Repr

structure Switch where
  names : List String
  kind : SwitchKind := .flag
  deriving DecidableEq, Repr

namespace Switch

/-- Switches are known by their long names. -/
def key (switch : Switch) : String := switch.names.headD ""

def takesValue (switch : Switch) : Bool :=
  switch.kind == .text || switch.kind == .number

end Switch

/-- Why the arguments are not used: they make no sense, or ask for help only. -/
inductive Refusal
  | misuse
  | help
  deriving DecidableEq, Repr

/-! ## Recognising arguments -/

/-- What stands in the same argument as the name of a switch. -/
inductive Attached
  | nothing
  | directly (text : String)
  | byEquals (text : String)
  deriving DecidableEq, Repr

/-- What an argument is by itself. -/
inductive Item
  | argument (text : String)
  | separator
  | switch (switch : Switch) (attached : Attached)
  | unknown
  deriving DecidableEq, Repr

/-- Every name with its switch. -/
def named (switches : List Switch) : List (String × Switch) :=
  switches.flatMap fun switch => switch.names.map fun name => (name, switch)

def switchNamed? (switches : List Switch) (name : String) : Option Switch :=
  (named switches).lookup name

/-- What stands before and after the first equals sign. -/
def splitValue (text : String) : String × Attached :=
  match Text.cut? "=" text with
  | some (name, value) => (name, .byEquals value)
  | none => (text, .nothing)

def isLong (text : String) : Bool :=
  Text.startsWith "--" text

/-- All switches that a name which is no full one can mean. -/
def candidates (switches : List Switch) (text : String) : List Item :=
  if isLong text then
    let (start, value) := splitValue text
    ((named switches).filter fun (name, _) => Text.startsWith start name).map
      fun (_, switch) => .switch switch value
  else
    let short := String.ofList (text.toList.take 2)
    ((named switches).filter fun (name, _) => name == short).map
      fun (_, switch) => .switch switch (.directly (String.ofList (text.toList.drop 2)))

/-- A line feed at the very end does not count. -/
def dropFinalBreak (cs : List Char) : List Char :=
  match cs.getLast? with
  | some '\n' => cs.dropLast
  | _ => cs

def isNegativeNumber (text : String) : Bool :=
  match text.toList with
  | '-' :: rest =>
      let rest := dropFinalBreak rest
      let whole := rest.takeWhile Text.isDigit
      match rest.drop whole.length with
      | [] => !whole.isEmpty
      | '.' :: fraction => !fraction.isEmpty && fraction.all Text.isDigit
      | _ => false
  | _ => false

/-- An argument that is no full name of a switch. -/
def recogniseOther (switches : List Switch) (text : String) : Except Refusal Item :=
  match candidates switches text with
  | [item] => .ok item
  | _ :: _ :: _ => .error .misuse
  | [] =>
      if isNegativeNumber text || text.toList.contains ' ' then .ok (.argument text)
      else .ok .unknown

def recognise (switches : List Switch) (text : String) : Except Refusal Item :=
  if text == "-" || !Text.startsWith "-" text then .ok (.argument text)
  else
    match switchNamed? switches text with
    | some switch => .ok (.switch switch .nothing)
    | none =>
        let (name, value) := splitValue text
        match switchNamed? switches name with
        | some switch => .ok (.switch switch value)
        | none => recogniseOther switches text

/-- Behind two hyphens there are no switches. -/
def recogniseAll (switches : List Switch) : List String → Except Refusal (List Item)
  | [] => .ok []
  | text :: rest =>
      if text == "--" then .ok (.separator :: rest.map .argument)
      else do
        let item ← recognise switches text
        .ok (item :: (← recogniseAll switches rest))

end Feuilleton.CommandLine
