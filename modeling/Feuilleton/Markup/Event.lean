import Feuilleton.OrderedMap

/-!
# Markup events

A page is a flat, ordered stream of three kinds of events. An element without content, such as a
line break, is opened and closed at once; runs of blanks are delivered as text.
-/

namespace Feuilleton

abbrev Attributes := OrderedMap String

inductive Event
  | opened (name : String) (attributes : Attributes)
  | text (content : String)
  | closed (name : String)
  deriving DecidableEq, Repr

/-- The value of an attribute; an absent one is empty. -/
def OrderedMap.value (attributes : Attributes) (key : String) : String :=
  (attributes.get? key).getD ""

end Feuilleton
