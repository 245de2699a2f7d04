import Feuilleton.Json.Basic
import Feuilleton.OrderedMap

/-!
# Checked decoding

A decoder takes a JSON value to a value of the domain or to the list of everything that is wrong
with it. Each issue says what is wrong and where: the names and positions on the way to the value,
outermost first. A record reports the issues of all its fields.
-/

namespace Feuilleton

inductive IssueKind
  | missing
  | stringType
  | stringTooShort
  | boolType
  | boolParsing
  | intType
  | intParsing
  | intFromFloat
  | finiteNumber
  | floatType
  | floatParsing
  | notPositive
  | listType
  | mapType
  | recordType
  | unknownName
  | unknownTag
  | missingTag
  | malformedText
  deriving DecidableEq, Repr

structure Issue where
  kind : IssueKind
  location : List String := []
  deriving DecidableEq, Repr

inductive Checked (α : Type)
  | valid (value : α)
  | invalid (issues : List Issue)
  deriving Repr

namespace Checked

variable {α β : Type}

def map (f : α → β) : Checked α → Checked β
  | valid value => valid (f value)
  | invalid issues => invalid issues

/-- Issues of both sides are kept. -/
def seq (f : Checked (α → β)) (x : Unit → Checked α) : Checked β :=
  match f, x () with
  | valid f, valid value => valid (f value)
  | valid _, invalid issues => invalid issues
  | invalid issues, valid _ => invalid issues
  | invalid first, invalid second => invalid (first ++ second)

instance : Applicative Checked where
  pure := valid
  map := map
  seq := seq

def issue (kind : IssueKind) : Checked α :=
  invalid [⟨kind, []⟩]

/-- Moves all issues below `step`. -/
def below (step : String) : Checked α → Checked α
  | valid value => valid value
  | invalid issues => invalid (issues.map fun i => { i with location := step :: i.location })

def bind (x : Checked α) (f : α → Checked β) : Checked β :=
  match x with
  | valid value => f value
  | invalid issues => invalid issues

end Checked

abbrev Members := List (String × Json)

abbrev Decoder (α : Type) := Json → Checked α

namespace Decoder

variable {α : Type}

/-! ## Records -/

def record (fields : Members → Checked α) : Decoder α
  | .obj members => fields members
  | _ => .issue .recordType

def required (name : String) (decode : Decoder α) (members : Members) : Checked α :=
  match Json.member? members name with
  | some value => (decode value).below name
  | none => (Checked.issue .missing).below name

def optional (name : String) (default : α) (decode : Decoder α) (members : Members) : Checked α :=
  match Json.member? members name with
  | some value => (decode value).below name
  | none => .valid default

def nullable (decode : Decoder α) : Decoder (Option α)
  | .null => .valid none
  | value => (decode value).map some

/-! ## Containers -/

def items (decode : Decoder α) (position : Nat) : List Json → Checked (List α)
  | [] => .valid []
  | item :: rest =>
      List.cons <$> (decode item).below (Nat.repr position) <*> items decode (position + 1) rest

def list (decode : Decoder α) : Decoder (List α)
  | .arr values => items decode 0 values
  | _ => .issue .listType

def entries (decode : Decoder α) : Members → Checked (List (String × α))
  | [] => .valid []
  | (name, value) :: rest =>
      (fun value rest => (name, value) :: rest) <$> (decode value).below name <*>
        entries decode rest

def orderedMap (decode : Decoder α) : Decoder (OrderedMap α)
  | .obj members => (entries decode members).map OrderedMap.ofList
  | _ => .issue .mapType

/-- One of finitely many names. -/
def named (table : List (String × α)) : Decoder α
  | .str name =>
      match table.lookup name with
      | some value => .valid value
      | none => .issue .unknownName
  | _ => .issue .unknownName

end Decoder

end Feuilleton
