import Feuilleton.Document.Node

/-!
# Documents under construction

While a document is read its nodes can still move. They stand in an arena and know each other by
number; number zero is the document itself.
-/

namespace Feuilleton.Document

/-- The kinds of elements: of the page itself, of drawings and of formulas. -/
inductive Space
  | html
  | svg
  | math
  deriving DecidableEq, Repr

abbrev NodeId := Nat

inductive Child
  | element (id : NodeId)
  | text (content : String)
  | comment (content : String)
  deriving DecidableEq, Repr

/-- Children are kept last first. -/
structure Slot where
  name : String := ""
  space : Space := .html
  attributes : Attributes := ∅
  parent : Option NodeId := none
  children : List Child := []
  deriving DecidableEq, Repr

instance : Inhabited Slot := ⟨{}⟩

abbrev Arena := Array Slot

namespace Arena

def root : NodeId := 0

def empty : Arena := #[{}]

def slot (arena : Arena) (id : NodeId) : Slot :=
  (arena[id]?).getD {}

def update (arena : Arena) (id : NodeId) (f : Slot → Slot) : Arena :=
  arena.modify id f

/-- Adds an element that stands nowhere yet. -/
def create (arena : Arena) (name : String) (space : Space) (attributes : Attributes) :
    Arena × NodeId :=
  (arena.push { name, space, attributes }, arena.size)

def clone (arena : Arena) (id : NodeId) : Arena × NodeId :=
  let slot := arena.slot id
  arena.create slot.name slot.space slot.attributes

/-! ## Children -/

/-- Texts that come to stand side by side are joined. -/
def addChild (child : Child) (children : List Child) : List Child :=
  match child, children with
  | .text new, .text old :: rest => .text (old ++ new) :: rest
  | child, children => child :: children

/-- Adds a child before the element `next`, or at the end. -/
def addBefore (child : Child) (next : NodeId) : List Child → List Child
  | [] => [child]
  | other :: rest =>
      if other = .element next then other :: addChild child rest
      else other :: addBefore child next rest

def place (arena : Arena) (parent : NodeId) (before : Option NodeId) (child : Child) : Arena :=
  arena.update parent fun slot =>
    { slot with
      children := match before with
        | some next => addBefore child next slot.children
        | none => addChild child slot.children }

def detach (arena : Arena) (id : NodeId) : Arena :=
  match (arena.slot id).parent with
  | none => arena
  | some parent =>
      (arena.update parent fun slot =>
        { slot with children := slot.children.filter (· != .element id) }).update id
        fun slot => { slot with parent := none }

/-- Takes an element from where it stands and puts it into `parent`. -/
def move (arena : Arena) (id parent : NodeId) (before : Option NodeId) : Arena :=
  ((arena.detach id).place parent before (.element id)).update id
    fun slot => { slot with parent := some parent }

def adopt (arena : Arena) (parent : NodeId) (children : List Child) : Arena :=
  children.foldl
    (fun arena child =>
      match child with
      | .element id => arena.update id fun slot => { slot with parent := some parent }
      | _ => arena)
    arena

/-- Moves all children of `source` to the end of `target`. -/
def moveChildren (arena : Arena) (source target : NodeId) : Arena :=
  let children := (arena.slot source).children
  ((arena.update source fun slot => { slot with children := [] }).update target
    fun slot => { slot with children := children ++ slot.children }).adopt target children

/-! ## The finished tree -/

/-- The node of a child, with `depth` more levels below it. -/
def node (arena : Arena) : Nat → Child → Node
  | _, .text content => .text content
  | _, .comment content => .comment content
  | 0, .element id => .element (arena.slot id).name (arena.slot id).attributes []
  | depth + 1, .element id =>
      let slot := arena.slot id
      .element slot.name slot.attributes (slot.children.reverse.map (arena.node depth))

def tree (arena : Arena) : List Node :=
  (arena.slot root).children.reverse.map (arena.node arena.size)

end Arena

end Feuilleton.Document
