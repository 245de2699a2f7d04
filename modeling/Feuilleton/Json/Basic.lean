import Feuilleton.Number.Binary64

/-!
# JSON values

Numbers written without fraction and exponent are integers of any size, all others are binary
floating point. An object keeps its members in the order in which they were written; of members
with one name the last one counts.
-/

namespace Feuilleton

inductive Json
  | null
  | bool (value : Bool)
  | int (value : Int)
  | float (value : Binary64)
  | str (value : String)
  | arr (items : List Json)
  | obj (members : List (String × Json))
deriving Repr, Inhabited

namespace Json

def member? (members : List (String × Json)) (name : String) : Option Json :=
  members.reverse.lookup name

def get? (name : String) : Json → Option Json
  | obj members => member? members name
  | _ => none

/-- The value under `name`, where a missing one and `null` are the same. -/
def present? (name : String) (value : Json) : Option Json :=
  match value.get? name with
  | some null => none
  | other => other

def asString? : Json → Option String
  | str s => some s
  | _ => none

def asInt? : Json → Option Int
  | int i => some i
  | _ => none

def asBool? : Json → Option Bool
  | bool b => some b
  | _ => none

def asList? : Json → Option (List Json)
  | arr items => some items
  | _ => none

def ofOption {α : Type} (encode : α → Json) : Option α → Json
  | none => null
  | some value => encode value

def ofStrings (texts : List String) : Json :=
  arr (texts.map str)

def ofNat (n : Nat) : Json :=
  int n

/-- How deep arrays and objects of a readable text may be nested. -/
def maxDepth : Nat := 200

end Json

end Feuilleton
