import Feuilleton.Extraction.Step
import Feuilleton.Grammar.Theme

/-!
# Chapter lists of the theme

How the theme writes a list of chapters, and which chapters such a list stands for. Whether a
chapter is locked is decided by the cells of its own item and of the items before it.
-/

namespace Feuilleton

/-- An item of a chapter list with the texts of the cells that it has. -/
structure ListItem where
  href : Option String := none
  number : Option String := none
  title : Option String := none
  date : Option String := none
  price : Option String := none
  deriving DecidableEq, Repr

/-! ## Writing a list -/

def Cell.className : Cell → String
  | .number => "epl-num"
  | .title => "epl-title"
  | .date => "epl-date"
  | .price => "epl-price"

def Cell.events (cell : Cell) : Option String → List Event
  | none => []
  | some content =>
      [.opened "div" (.ofList [("class", cell.className)]), .text content, .closed "div"]

namespace ListItem

def cells (item : ListItem) : List Event :=
  Cell.number.events item.number ++ (Cell.title.events item.title ++
    (Cell.date.events item.date ++ Cell.price.events item.price))

def events (item : ListItem) : List Event :=
  .opened "li" ∅ ::
    (match item.href with
    | none => item.cells
    | some href => .opened "a" (.ofList [("href", href)]) :: (item.cells ++ [.closed "a"])) ++
    [.closed "li"]

def listEvents (items : List ListItem) : List Event :=
  .opened "div" (.ofList [("class", "eplister")]) :: .opened "ul" ∅ ::
    (items.flatMap events ++ [.closed "ul", .closed "div"])

end ListItem

/-! ## Locks -/

/-- A cell that may decide if a chapter is locked. -/
inductive LockCell
  | number (content : String)
  | price (content : String)
  deriving DecidableEq, Repr

namespace LockCell

def isMarked : LockCell → Bool
  | number content => Text.occursIn defaultLockGlyph content
  | price _ => false

/-- What a cell decides; `seen` if a number before it carried the glyph. -/
def verdict (seen : Bool) : LockCell → Option Bool
  | number content =>
      if Text.occursIn defaultLockGlyph content then some true
      else if seen then some false
      else none
  | price content => some (!isFree content)

/-- The verdict of the latest cell that decides, the cells being given latest first. -/
def latestVerdict (paid seen : Bool) : List LockCell → Bool
  | [] => paid
  | cell :: earlier =>
      (cell.verdict (seen || earlier.any isMarked)).getD (latestVerdict paid seen earlier)

/-- The verdicts of the earlier cells are all that later cells need to know of them. -/
theorem latestVerdict_append (paid seen : Bool) (later earlier : List LockCell) :
    latestVerdict paid seen (later ++ earlier) =
      latestVerdict (latestVerdict paid seen earlier) (seen || earlier.any isMarked) later := by
  induction later with
  | nil => rfl
  | cons cell later ih =>
      rw [List.cons_append, latestVerdict, latestVerdict, ih, List.any_append,
        Bool.or_assoc, Bool.or_comm (later.any isMarked)]

end LockCell

/-! ## The chapters of a list -/

def trailingDigits (content : String) : List Char :=
  Text.lastDigits (Text.dropEndWhile Text.isBlank content.toList)

def trailingValue? (content : String) : Option Nat :=
  match trailingDigits content with
  | [] => none
  | digits => some (Text.numeralValue digits)

namespace ListItem

def lockCells (item : ListItem) : List LockCell :=
  (item.number.map .number).toList ++ (item.price.map .price).toList

def path (site : String) (item : ListItem) : String :=
  match item.href with
  | none => ""
  | some href => Text.trim (Text.eraseFirst site href)

def name (workName : String) (item : ListItem) : String :=
  match item.title with
  | none => ""
  | some title => stripWorkName title workName

/-- The digits behind the number; those behind the title where there are none, or only zeros. -/
def ordinal (item : ListItem) : Nat :=
  let n := (item.number.bind trailingValue?).getD 0
  if n = 0 then (item.title.bind trailingValue?).getD 0 else n

/-- The chapter of an item: none without a link or if it is locked and unwanted. -/
def chapter? (site workName : String) (hideLocked locked : Bool) (item : ListItem) :
    Option Chapter :=
  if item.path site = "" ∨ (locked = true ∧ hideLocked = true) then none
  else some {
    path := item.path site
    name := if locked then defaultLockGlyph ++ " " ++ item.name workName else item.name workName
    releaseTime := item.date
    number := item.ordinal
    locked }

/-- The chapters of the items behind `earlier`. -/
def chapters (site workName : String) (hideLocked paid seen : Bool) (earlier : List ListItem) :
    List ListItem → List Chapter
  | [] => []
  | item :: rest =>
      let upToHere := earlier ++ [item]
      let locked := LockCell.latestVerdict paid seen (upToHere.flatMap lockCells).reverse
      (item.chapter? site workName hideLocked locked).toList ++
        chapters site workName hideLocked paid seen upToHere rest

/-- No digits at the end of a number or a title are too many to be read. -/
def NumeralsFit (item : ListItem) : Prop :=
  ∀ content, item.number = some content ∨ item.title = some content →
    (trailingDigits content).length ≤ Text.maxDigits

instance (item : ListItem) : Decidable item.NumeralsFit :=
  decidable_of_iff (∀ content ∈ item.number.toList ++ item.title.toList,
      (trailingDigits content).length ≤ Text.maxDigits)
    (by simp [NumeralsFit])

end ListItem

end Feuilleton
