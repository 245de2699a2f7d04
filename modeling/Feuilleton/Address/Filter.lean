import Feuilleton.Number.Shortest
import Feuilleton.OrderedMap
import Feuilleton.Text.Quoted
import Feuilleton.Text.Search

/-!
# Query filters

Filters narrow a catalogue. A filter has one value, which is left out if it is empty, or a list of
values, each of which is written even if it is empty.
-/

namespace Feuilleton

inductive FilterValue
  | absent
  | truth (value : Bool)
  | whole (value : Int)
  | real (value : Binary64)
  | text (value : String)
  | list (items : List FilterValue)
deriving Repr, Inhabited

abbrev Filters := OrderedMap FilterValue

namespace FilterValue

/-- Nothing, zero, falsehood and the empty text are not written. -/
def isSet : FilterValue → Bool
  | absent => false
  | truth value => value
  | whole value => value != 0
  | real value => !value.isZero
  | text value => !value.isEmpty
  | list items => !items.isEmpty

mutual

/-- A value inside a list that is itself a value. -/
def nested : FilterValue → String
  | absent => "None"
  | truth true => "True"
  | truth false => "False"
  | whole value => Text.intText value
  | real value => value.text Binary64.plainNames
  | text value => Text.quoted value
  | list items => "[" ++ nestedItems items ++ "]"

def nestedItems : List FilterValue → String
  | [] => ""
  | [item] => nested item
  | item :: rest => nested item ++ ", " ++ nestedItems rest

end

mutual

/-- Every whole number in the value can be written. -/
def isWritable : FilterValue → Bool
  | whole value => decide (Text.IsWritable value)
  | list items => areWritable items
  | _ => true

def areWritable : List FilterValue → Bool
  | [] => true
  | item :: rest => item.isWritable && areWritable rest

end

def display : FilterValue → String
  | text value => value
  | value => nested value

/-- The values that are written, in order. -/
def written : FilterValue → List String
  | list items => items.map display
  | value => if value.isSet then [value.display] else []

/-- Another value for a key that has one already. -/
def add (value : FilterValue) (new : String) : FilterValue :=
  match value with
  | list items => list (items ++ [text new])
  | value => list [value, text new]

end FilterValue

/-- A pair of key and value; without an equals sign the value is empty. -/
def splitPair (pair : String) : String × String :=
  (Text.cut? "=" pair).getD (pair, "")

def addPair (filters : Filters) (pair : String) : Filters :=
  let (key, value) := splitPair pair
  match filters.get? key with
  | some known => filters.insert key (known.add value)
  | none => filters.insert key (.text value)

/-- Filters from pairs; a repeated key collects its values. -/
def Filters.ofPairs (pairs : List String) : Filters :=
  pairs.foldl addPair ∅

end Feuilleton
