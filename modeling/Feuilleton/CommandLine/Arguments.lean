import Feuilleton.CommandLine.Switch

/-!
# Arguments

The arguments of a command in their order. What belongs to no switch is an input; all inputs stand
together.
-/

namespace Feuilleton.CommandLine

/-! ## Numbers -/

def isNumberBlank (c : Char) : Bool :=
  Text.isBlank c && !(28 ≤ c.toNat && c.toNat ≤ 31)

/-- A whole number in digits of any script. -/
def readNumber? (text : String) : Option Int := do
  let trimmed := Text.dropEndWhile isNumberBlank (text.toList.dropWhile isNumberBlank)
  let (negative, rest) := splitSign trimmed
  let digits ← withoutUnderscores? rest
  if digits.isEmpty ∨ !digits.all Text.isDigit ∨ Text.maxDigits < digits.length then none
  else
    let value : Int := Text.numeralValue digits
    some (if negative then -value else value)

/-! ## Reading -/

inductive Given
  | flag
  | text (value : String)
  | number (value : Int)
  deriving DecidableEq, Repr

/-- Inputs are still to come, are being read, or are complete. -/
inductive InputStage
  | awaited
  | reading
  | complete
  deriving DecidableEq, Repr

structure Arguments where
  given : List (String × Given) := []
  inputs : List String := []
  stage : InputStage := .awaited
  deriving DecidableEq, Repr

namespace Arguments

def give (a : Arguments) (switch : Switch) (value : Given) : Arguments :=
  { a with given := a.given ++ [(switch.key, value)] }

def giveValue (a : Arguments) (switch : Switch) (text : String) : Except Refusal Arguments :=
  match switch.kind with
  | .number =>
      match readNumber? text with
      | some value => .ok (a.give switch (.number value))
      | none => .error .misuse
  | _ => .ok (a.give switch (.text text))

def giveFlag (a : Arguments) (switch : Switch) : Except Refusal Arguments :=
  if switch.kind == .help then .error .help else .ok (a.give switch .flag)

/-- A switch ends the inputs before it. -/
def closeInputs (a : Arguments) : Arguments :=
  { a with stage := if a.stage = .reading then .complete else a.stage }

def addInput (a : Arguments) (text : String) : Except Refusal Arguments :=
  if a.stage = .complete then .error .misuse
  else .ok { a with inputs := a.inputs ++ [text], stage := .reading }

/-- Switches whose short names are written together. The last one may still await a value; a flag
takes none behind an equals sign. -/
def giveJoined (switches : List Switch) (a : Arguments) (switch : Switch) (byEquals : Bool) :
    List Char → Except Refusal (Arguments × Option Switch)
  | [] =>
      if switch.takesValue then do .ok (← a.giveValue switch "", none) else .error .misuse
  | c :: rest =>
      if switch.takesValue then do
        .ok (← a.giveValue switch (String.ofList (c :: rest)), none)
      else if byEquals then .error .misuse
      else do
        let a ← a.giveFlag switch
        match switchNamed? switches (String.ofList ['-', c]) with
        | none => .error .misuse
        | some next =>
            match rest with
            | [] => if next.takesValue then .ok (a, some next) else .ok (← a.giveFlag next, none)
            | '=' :: value => giveJoined switches a next true value
            | d :: more => giveJoined switches a next false (d :: more)

/-- What a switch takes from its own argument, and whether it awaits the next one. -/
def giveSwitch (switches : List Switch) (a : Arguments) (switch : Switch) :
    Attached → Except Refusal (Arguments × Option Switch)
  | .nothing =>
      if switch.takesValue then .ok (a, some switch) else do .ok (← a.giveFlag switch, none)
  | .directly text => giveJoined switches a switch false text.toList
  | .byEquals text => giveJoined switches a switch true text.toList

/-- Reads items; `waiting` is a switch that awaits its value. -/
def readItems (switches : List Switch) (a : Arguments) (waiting : Option Switch) :
    List Item → Except Refusal Arguments
  | [] => if waiting.isSome then .error .misuse else .ok a
  | item :: rest =>
      match waiting, item with
      | some switch, .argument text => do
          readItems switches (← a.giveValue switch text) none rest
      | some _, _ => .error .misuse
      | none, .argument text => do readItems switches (← a.addInput text) none rest
      | none, .separator =>
          if a.stage = .complete then .error .misuse else readItems switches a none rest
      | none, .unknown => .error .misuse
      | none, .switch switch attached => do
          let (a, waiting) ← giveSwitch switches a.closeInputs switch attached
          readItems switches a waiting rest

def read (switches : List Switch) (takesInputs : Bool) (texts : List String) :
    Except Refusal Arguments := do
  let stage := if takesInputs then InputStage.awaited else .complete
  readItems switches { stage } none (← recogniseAll switches texts)

/-! ## What was given -/

def hasFlag (a : Arguments) (key : String) : Bool :=
  a.given.any fun entry => entry.1 == key

def texts (a : Arguments) (key : String) : List String :=
  a.given.filterMap fun (name, value) =>
    match value with
    | .text text => if name == key then some text else none
    | _ => none

/-- The last text for a switch. -/
def text? (a : Arguments) (key : String) : Option String :=
  (a.texts key).getLast?

def number? (a : Arguments) (key : String) : Option Int :=
  (a.given.filterMap fun (name, value) =>
    match value with
    | .number n => if name == key then some n else none
    | _ => none).getLast?

end Arguments

end Feuilleton.CommandLine
