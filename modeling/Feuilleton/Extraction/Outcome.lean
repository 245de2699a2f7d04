import Feuilleton.Extraction.Step

/-!
# The outcome of an extraction

After the last event the draft becomes a work: texts are trimmed, dates are resolved, and the
chapters are put into reading order and numbered, which needs the whole list.
-/

namespace Feuilleton

inductive ExtractionError
  | numeralTooLong (digits : Nat)
  | impreciseDate
  deriving DecidableEq, Repr

def ExtractionError.message : ExtractionError → String
  | numeralTooLong digits => Text.NumeralTooLong.message ⟨digits⟩
  | impreciseDate => "[<class 'decimal.DivisionImpossible'>]"

namespace State

def releaseTime (dates : DateParser) (now : Moment) (raw : Option String) :
    Except DateError (Option String) :=
  match raw with
  | none => .ok none
  | some raw =>
      let raw := Text.trim raw
      if raw.isEmpty then .ok none else (dates.resolve raw now).map some

/-- The chapters with their dates resolved, numbered from `position` on if positions count. -/
def settleChapters (numbering : Numbering) (dates : DateParser) (now : Moment) :
    Nat → List Chapter → Except DateError (List Chapter)
  | _, [] => .ok []
  | position, chapter :: rest => do
      let releaseTime ← releaseTime dates now chapter.releaseTime
      let rest ← settleChapters numbering dates now (position + 1) rest
      let number := match numbering with
        | .parsed => chapter.number
        | .position => position
      .ok ({ chapter with releaseTime, number } :: rest)

def readingOrder (g : Grammar) (chapters : List Chapter) : List Chapter :=
  if g.reverseChapters then chapters.reverse else chapters

def settledGenres (fragments : List String) : List String :=
  (fragments.map Text.trim).filter (!·.isEmpty)

def coverOrDefault (cover : Option String) : String :=
  match cover with
  | some cover => if cover.isEmpty then defaultCover else cover
  | none => defaultCover

def toWork (g : Grammar) (p : Policy) (s : State) : Except DateError Work := do
  let chapters ←
    settleChapters g.numbering p.dates p.now 1 (readingOrder g s.chapters.records)
  .ok {
    path := s.work.path
    name := Text.trim s.work.name
    cover := coverOrDefault s.work.cover
    summary := Text.trim s.work.summary
    author := Text.trim s.work.author
    artist := Text.trim s.work.artist
    status := s.work.status.getD .unknown
    genres := settledGenres s.genres.fragments
    rating := s.work.rating
    chapters }

/-- The work of a finished state, with the cause of a failure. -/
def finish (g : Grammar) (p : Policy) (s : State) : Except ExtractionError Work :=
  match s.toWork g p with
  | .ok work => .ok work
  | .error _ => .error .impreciseDate

end State

/-- Extracts a work from the events of its page. -/
def extract (g : Grammar) (p : Policy) (path : String) (events : List Event) :
    Except ExtractionError Work :=
  match (State.initial path).run g p events with
  | .ok s => s.finish g p
  | .error tooLong => .error (.numeralTooLong tooLong.digits)

end Feuilleton
