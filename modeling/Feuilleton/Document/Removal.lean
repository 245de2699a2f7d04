import Feuilleton.Document.Node

/-!
# Removing nodes

The nodes of a document are numbered in its order, so that all nodes below a node directly follow
it. A node is removed together with them. A list of nodes that was made before still holds those
that are gone, and they are told by their numbers.
-/

namespace Feuilleton.Document

/-! ## Numbers -/

mutual

/-- How many nodes there are from a node on downwards, itself included. -/
def Node.size : Node → Nat
  | .element _ _ children => 1 + totalSize children
  | .text _ => 1
  | .comment _ => 1

def totalSize : List Node → Nat
  | [] => 0
  | node :: rest => node.size + totalSize rest

end

/-- A run of numbers. -/
structure Span where
  first : Nat
  length : Nat
  deriving DecidableEq, Repr

def Span.holds (span : Span) (number : Nat) : Bool :=
  span.first ≤ number && number < span.first + span.length

/-- A node with its number. -/
abbrev Numbered := Node × Nat

def numberedFrom (number : Nat) (nodes : List Node) : List Numbered :=
  (preorder nodes).zipIdx number

/-- The numbers that a node takes with it. -/
def spanOf (entry : Numbered) : Span where
  first := entry.2
  length := entry.1.size

/-! ## What is left -/

def isGone (gone : List Span) (number : Nat) : Bool :=
  gone.any (·.holds number)

mutual

/-- What is left of a node that has the given number and is not gone itself. -/
def Node.remaining (gone : List Span) (number : Nat) : Node → Node
  | .element name attributes children =>
      .element name attributes (remainingFrom gone (number + 1) children)
  | .text content => .text content
  | .comment content => .comment content

/-- What is left of nodes that are numbered from the given number on. -/
def remainingFrom (gone : List Span) (number : Nat) : List Node → List Node
  | [] => []
  | node :: rest =>
      let later := remainingFrom gone (number + node.size) rest
      if isGone gone number then later else node.remaining gone number :: later

end

/-- Lists the unwanted nodes and then removes one after the other. One that is gone already takes
nothing more with it. -/
def removeAll (unwanted : Node → Bool) (nodes : List Node) : List Node :=
  let listed := (numberedFrom 0 nodes).filter (unwanted ·.1)
  let gone := listed.foldl (fun gone entry => spanOf entry :: gone) []
  remainingFrom gone 0 nodes

end Feuilleton.Document
