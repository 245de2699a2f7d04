import Feuilleton.Calendar.Release
import Feuilleton.Grammar.Basic
import Feuilleton.Vocabulary.InfoField

/-!
# The state of an extraction

What is known at one point of an event stream: the part of the page that is being read, the draft
of the work, and the counters of each part.
-/

namespace Feuilleton

/-- The wishes of the caller, the moment to which relative dates refer, and how written ones are
read. -/
structure Policy where
  hideLocked : Bool := false
  now : Moment
  dates : DateParser := .standard

/-- The part of the page that is being read. -/
inductive Mode
  | idle
  | title
  | rating
  | genres
  | summary
  | info
  | chapters
  deriving DecidableEq, Repr

/-- A cell of an item in the list of chapters. -/
inductive Cell
  | number
  | title
  | date
  | price
  deriving DecidableEq, Repr

structure WorkDraft where
  path : String := ""
  name : String := ""
  cover : Option String := none
  summary : String := ""
  author : String := ""
  artist : String := ""
  status : Option Status := none
  rating : Option Binary64 := none
  deriving DecidableEq, Repr

/-- One fragment per link; the last one grows while its link is being read. -/
structure GenreState where
  readingTag : Option String := none
  fragments : List String := []
  deriving DecidableEq, Repr

structure SummaryState where
  depth : Nat := 0
  containerTag : String := "div"
  deriving DecidableEq, Repr

structure InfoState where
  readingLabel : Bool := false
  labelTag : Option String := none
  activeField : Option InfoField := none
  endTag : String := "div"
  deriving DecidableEq, Repr

structure ChapterDraft where
  path : Option String := none
  name : String := ""
  releaseTime : Option String := none
  number : Option Nat := none
  lockedByClass : Bool := false
  itemTag : String := "li"
  deriving DecidableEq, Repr

/-- `paid` holds from one item to the next until a number or price cell decides again. Once a lock
glyph was seen, a number without one decides too. -/
structure ChapterState where
  activeCell : Option Cell := none
  draft : Option ChapterDraft := none
  paid : Bool := false
  lockMarkerSeen : Bool := false
  endTag : String := "ul"
  hidden : Nat := 0
  records : List Chapter := []
  deriving DecidableEq, Repr

structure State where
  mode : Mode := .idle
  work : WorkDraft := {}
  genres : GenreState := {}
  summary : SummaryState := {}
  info : InfoState := {}
  chapters : ChapterState := {}
  fieldEndTag : Option String := none
  fieldText : String := ""
  seen : Nat := 0
  deriving DecidableEq, Repr

def State.initial (path : String) : State where
  work := { path }

end Feuilleton
