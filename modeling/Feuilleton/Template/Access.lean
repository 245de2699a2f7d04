import Feuilleton.Template.Basic

/-!
# Values of fields

The name of a field begins with the name of a value and may go on with its members, behind
points, and its parts, in brackets.
-/

namespace Feuilleton.Template

/-- The largest number that counts as a position. -/
def maxIndex : Nat := 0x7FFFFFFFFFFFFFFF

/-- The number that is made of all characters, if they are digits. -/
def indexFrom (value : Nat) : List Char → Except Error (Option Nat)
  | [] => .ok (some value)
  | c :: rest =>
      match Text.digitValue? c with
      | none => .ok none
      | some digit =>
          if maxIndex < 10 * value + digit then .error .numberTooLong
          else indexFrom (10 * value + digit) rest

def readIndex (cs : List Char) : Except Error (Option Nat) :=
  if cs.isEmpty then .ok none else indexFrom 0 cs

/-! ## Steps into a value -/

inductive Step
  | member (name : List Char)
  | item (name : List Char)
  | broken (error : Error)
  deriving DecidableEq, Repr

inductive StepPlace
  | outside
  | member (name : List Char)
  | item (name : List Char)
  deriving DecidableEq, Repr

def stepsFrom : StepPlace → List Char → List Step
  | .outside, [] => []
  | .outside, c :: rest =>
      if c = '.' then stepsFrom (.member []) rest
      else if c = '[' then stepsFrom (.item []) rest
      else [.broken .strayAfterBracket]
  | .member name, [] => [.member name.reverse]
  | .member name, c :: rest =>
      if c = '.' then .member name.reverse :: stepsFrom (.member []) rest
      else if c = '[' then .member name.reverse :: stepsFrom (.item []) rest
      else stepsFrom (.member (c :: name)) rest
  | .item _, [] => [.broken .unclosedBracket]
  | .item name, c :: rest =>
      if c = ']' then .item name.reverse :: stepsFrom .outside rest
      else stepsFrom (.item (c :: name)) rest

namespace Value

def member (value : Value) (name : String) : Except Error Value :=
  match value, name with
  | text _, "__class__" => .ok (kind .text)
  | whole _, "__class__" => .ok (kind .whole)
  | kind k, "__name__" => .ok (text k.name)
  | whole n, "real" => .ok (whole n)
  | whole _, "imag" => .ok (whole 0)
  | whole n, "numerator" => .ok (whole n)
  | whole _, "denominator" => .ok (whole 1)
  | value, name => .error (.noAttribute value name)

def item (value : Value) (index : Option Nat) : Except Error Value :=
  match value, index with
  | text content, some n =>
      match content.toList[n]? with
      | some c => .ok (text (String.singleton c))
      | none => .error .indexOutOfRange
  | text _, none => .error .textIndex
  | value, _ => .error (.noParts value)

def step (value : Value) : Step → Except Error Value
  | .member name =>
      if name.isEmpty then .error .emptyPart else value.member (String.ofList name)
  | .item name => do
      let index ← readIndex name
      if name.isEmpty then .error .emptyPart else value.item index
  | .broken error => .error error

end Value

def isStepMark (c : Char) : Bool :=
  c == '.' || c == '['

/-- A field without a name or with a number asks for a value by position, and there are none. -/
def rootValue (values : Values) (root : List Char) : Except Error Value := do
  match ← readIndex root with
  | some index => .error (.noPositional index)
  | none =>
      if root.isEmpty then .error (.noPositional 0)
      else
        let name := String.ofList root
        match values.lookup name with
        | some value => .ok value
        | none => .error (.unknownName name)

def valueOf (values : Values) (name : List Char) : Except Error Value := do
  let value ← rootValue values (name.takeWhile (!isStepMark ·))
  (stepsFrom .outside (name.dropWhile (!isStepMark ·))).foldlM Value.step value

end Feuilleton.Template
