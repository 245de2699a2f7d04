import Feuilleton.Markup.Event
import Feuilleton.Text.Blank
import Feuilleton.Text.Search

/-!
# Document trees

A document is a list of nodes: elements with their children, texts and comments. All searches go
through the nodes in document order.
-/

namespace Feuilleton.Document

inductive Node
  | element (name : String) (attributes : Attributes) (children : List Node)
  | text (content : String)
  | comment (content : String)
deriving Repr, Inhabited

namespace Node

/-! ## Single nodes -/

def isNamed (name : String) : Node → Bool
  | element n _ _ => n == name
  | _ => false

def attribute? (key : String) : Node → Option String
  | element _ attributes _ => attributes.get? key
  | _ => none

def children : Node → List Node
  | element _ _ children => children
  | _ => []

/-- The classes of an element. -/
def classes (node : Node) : List String :=
  ((node.attribute? "class").map Text.words).getD []

/-- One of the classes is `name`, or all of them together are. -/
def hasClass (name : String) (node : Node) : Bool :=
  (node.attribute? "class").any fun value =>
    let words := Text.words value
    words.contains name || (words.length != 1 && Text.join " " words == name)

/-- The only text or comment in an element, however deep. -/
def onlyText? : Node → Option String
  | text content => some content
  | comment content => some content
  | element _ _ [child] => child.onlyText?
  | element _ _ _ => none

end Node

/-! ## Whole trees -/

mutual

/-- The nodes below a node. -/
def Node.descendants : Node → List Node
  | .element _ _ children => preorder children
  | .text _ => []
  | .comment _ => []

/-- All nodes in document order. -/
def preorder : List Node → List Node
  | [] => []
  | node :: rest => node :: (node.descendants ++ preorder rest)

end

end Feuilleton.Document
