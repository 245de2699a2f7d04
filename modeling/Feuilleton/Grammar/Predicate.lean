import Feuilleton.Markup.Event
import Feuilleton.Text.Search

/-!
# Predicates on open tags

A predicate tests the name of an open tag or one of its attributes. A test of an attribute may
also demand a tag name; a test of the name ignores everything but the name.
-/

namespace Feuilleton

inductive Test
  | tag
  | attributeEquals
  | attributeContains
  deriving DecidableEq, Repr

structure Predicate where
  test : Test
  value : String
  key : String := "class"
  tag : Option String := none
  deriving DecidableEq, Repr

namespace Predicate

def admits (predicate : Predicate) (name : String) : Bool :=
  predicate.tag.all (· == name)

def holdsFor (predicate : Predicate) (name : String) (attributes : Attributes) : Bool :=
  match predicate.test with
  | .tag => name == predicate.value
  | .attributeEquals =>
      predicate.admits name && attributes.get? predicate.key == some predicate.value
  | .attributeContains =>
      predicate.admits name &&
        (attributes.get? predicate.key).any (Text.occursIn predicate.value ·)

/-! ## Short forms -/

def tagIs (name : String) : Predicate :=
  { test := .tag, value := name }

def classIs (value : String) : Predicate :=
  { test := .attributeEquals, value }

def classIsOn (tag value : String) : Predicate :=
  { test := .attributeEquals, value, tag := some tag }

def classHas (value : String) : Predicate :=
  { test := .attributeContains, value }

def attributeIs (key value : String) : Predicate :=
  { test := .attributeEquals, value, key }

def attributeIsOn (tag key value : String) : Predicate :=
  { test := .attributeEquals, value, key, tag := some tag }

end Predicate

/-- Some predicate of the list holds; for an empty list none does. -/
def anyHolds (predicates : List Predicate) (name : String) (attributes : Attributes) : Bool :=
  predicates.any (·.holdsFor name attributes)

end Feuilleton
