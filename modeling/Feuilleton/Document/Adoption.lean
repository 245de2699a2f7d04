import Feuilleton.Document.Builder

/-!
# Closing formatting

An end tag of formatting may cut through blocks that were opened inside it. What stands in the
outermost of these blocks then gets the formatting of its own, and the block moves out.
-/

namespace Feuilleton.Document.Builder

/-- Closes the innermost element of a name, if no special element stands in between. -/
def closeOther (b : Builder) (name : String) : Builder :=
  match b.elements.find? fun id => b.nameOf id == name || isSpecial (b.slot id) with
  | none => b
  | some id =>
      if b.nameOf id != name then b
      else
        let b := b.closeImplied (some name)
        { b with elements := (b.elements.dropWhile (· != id)).drop 1 }

/-- Puts a value in the place of another one. -/
def replaceIn {α : Type} [BEq α] (old new : α) (values : List α) : List α :=
  values.map fun value => if value == old then new else value

def insertIdAt {α : Type} (position : Nat) (value : α) (values : List α) : List α :=
  values.take position ++ value :: values.drop position

/-- The block that moves, the outermost node that moves with it, and where in the list of
formatting, from the oldest on, the new entry belongs. -/
structure Moving where
  block : NodeId
  last : NodeId
  bookmark : Nat

/-- Wraps what moves into copies of the formatting elements around it, at most `steps` of them. -/
def wrap (formatting : NodeId) : Nat → List NodeId → Builder × Moving → Builder × Moving
  | 0, _, state => state
  | _ + 1, [], state => state
  | steps + 1, id :: outer, (b, moving) =>
      if !b.formatting.contains (some id) then
        wrap formatting steps outer ({ b with elements := b.elements.erase id }, moving)
      else if id = formatting then (b, moving)
      else
        let oldest := b.formatting.reverse
        let bookmark := if moving.last = moving.block then oldest.idxOf (some id) + 1
          else moving.bookmark
        let (arena, copy) := b.arena.clone id
        let b := { b with
          arena := arena.move moving.last copy none
          formatting := replaceIn (some id) (some copy) b.formatting
          elements := replaceIn id copy b.elements }
        wrap formatting steps outer (b, { moving with last := copy, bookmark })

/-- Moves a block out of a formatting element and formats its content. -/
def moveOut (b : Builder) (formatting block : NodeId) : Builder :=
  let ancestor := ((b.elements.dropWhile (· != formatting)).drop 1).headD Arena.root
  let bookmark := b.formatting.reverse.idxOf (some formatting)
  let around := (b.elements.dropWhile (· != block)).drop 1
  let (b, moving) := wrap formatting 3 around (b, ⟨block, block, bookmark⟩)
  let (parent, before) := if tableParts.contains (b.nameOf ancestor) then b.fosterPlace
    else (ancestor, none)
  let arena := b.arena.move moving.last parent before
  let (arena, copy) := arena.clone formatting
  let arena := (arena.moveChildren block copy).move copy block none
  let oldest := b.formatting.reverse.erase (some formatting)
  let elements := b.elements.erase formatting
  let position := elements.idxOf block
  { b with
    arena
    formatting := (insertIdAt moving.bookmark (some copy) oldest).reverse
    elements := insertIdAt position copy elements }

/-- One round of closing a formatting element; none if nothing is left to be done. -/
def adoptOnce (b : Builder) (name : String) : Builder × Bool :=
  match b.formattingNamed? name with
  | none => (b.closeOther name, false)
  | some formatting =>
      let forgotten := b.formatting.erase (some formatting)
      if !b.elements.contains formatting then ({ b with formatting := forgotten }, false)
      else if !b.inScope .plain name then (b.closeOther name, false)
      else
        let inner := b.elements.takeWhile (· != formatting)
        match inner.reverse.find? fun id => isSpecial (b.slot id) with
        | none =>
            ({ b with
              elements := (b.elements.dropWhile (· != formatting)).drop 1
              formatting := forgotten }, false)
        | some block => (b.moveOut formatting block, true)

def adoptRounds : Nat → Builder → String → Builder
  | 0, b, _ => b
  | rounds + 1, b, name =>
      let (b, again) := b.adoptOnce name
      if again then adoptRounds rounds b name else b

def closeFormatting (b : Builder) (name : String) : Builder :=
  adoptRounds 8 b name

end Feuilleton.Document.Builder
