import Feuilleton.Extraction.Number
import Feuilleton.Extraction.State
import Feuilleton.Markup.Event
import Feuilleton.Vocabulary.Price

/-!
# One step of an extraction

A page is read once, event by event, with one part of it in view at a time. Only from the idle
mode does an open tag lead into a part of the page, so that no text belongs to two of them. The
cover image alone is taken in every mode.
-/

namespace Feuilleton

namespace State

def enter (s : State) (mode : Mode) : State :=
  { s with mode }

/-! ## Cover -/

/-- The first nonempty source of the image; the default cover where it has none. -/
def coverSource (rules : CoverRules) (attributes : Attributes) : String :=
  ((rules.sourceAttributes.map attributes.value).find? (!·.isEmpty)).getD defaultCover

/-- The first cover image also names the work. -/
def captureCover (g : Grammar) (name : String) (attributes : Attributes) (s : State) : State :=
  if s.work.cover.isSome || !anyHolds g.cover.image name attributes then s
  else
    let title := attributes.value g.cover.nameAttribute
    { s with work := { s.work with
        name := if title.isEmpty then s.work.name else title
        cover := some (coverSource g.cover attributes) } }

/-! ## Idle -/

def enterSummary (name : String) (s : State) : State :=
  { s with mode := .summary, summary := { depth := 1, containerTag := name } }

def enterChapters (g : Grammar) (name : String) (s : State) : State :=
  let endTag := match g.chapters.endTag with
    | some tag => if tag.isEmpty then name else tag
    | none => name
  { s with mode := .chapters, chapters := { s.chapters with endTag, activeCell := none } }

def enterField (mode : Mode) (name : String) (s : State) : State :=
  { s with mode, fieldEndTag := some name, fieldText := "" }

def enterRating (name : String) (attributes : Attributes) (s : State) : State :=
  match readRating? (attributes.value "content") with
  | some rating => { s with work := { s.work with rating := some rating } }
  | none => s.enterField .rating name

def openIdle (g : Grammar) (name : String) (attributes : Attributes) (s : State) : State :=
  if anyHolds g.genres.container name attributes then
    { s with mode := .genres, genres := { s.genres with readingTag := none } }
  else if anyHolds g.summary.container name attributes then s.enterSummary name
  else if anyHolds g.info.container name attributes then
    { s with mode := .info, info := { endTag := name } }
  else if anyHolds g.info.statusContainer name attributes then
    { s with
      mode := .info
      info := { readingLabel := true, activeField := some .status, endTag := name } }
  else if anyHolds g.chapters.container name attributes then s.enterChapters g name
  else if s.work.name.isEmpty && anyHolds g.title name attributes then s.enterField .title name
  else if s.work.rating.isNone && anyHolds g.rating name attributes then
    s.enterRating name attributes
  else s

/-! ## Title and rating -/

def textField (content : String) (s : State) : State :=
  { s with fieldText := s.fieldText ++ content }

def closeTitle (name : String) (s : State) : State :=
  if s.fieldEndTag = some name then
    { s with mode := .idle, work := { s.work with name := Text.trim s.fieldText } }
  else s

def closeRating (name : String) (s : State) : State :=
  if s.fieldEndTag = some name then
    { s with mode := .idle, work := { s.work with rating := readRating? s.fieldText } }
  else s

/-! ## Genres -/

def openGenres (g : Grammar) (name : String) (attributes : Attributes) (s : State) : State :=
  if s.genres.readingTag.isNone && anyHolds g.genres.link name attributes then
    { s with genres := { readingTag := some name, fragments := s.genres.fragments ++ [""] } }
  else s

/-- A link that is being read has begun a text, so there is one wherever this is used. -/
def appendToLast (content : String) : List String → List String
  | [] => []
  | [last] => [last ++ content]
  | first :: rest => first :: appendToLast content rest

def textGenres (content : String) (s : State) : State :=
  if s.genres.readingTag.isSome then
    { s with genres := { s.genres with fragments := appendToLast content s.genres.fragments } }
  else s

def closeGenres (name : String) (s : State) : State :=
  match s.genres.readingTag with
  | some tag =>
      if name = tag then { s with genres := { s.genres with readingTag := none } } else s
  | none => s.enter .idle

/-! ## Summary -/

/-- Tags that count for the depth: the boundary tags and the tag of the container itself. -/
def isBoundary (g : Grammar) (s : State) (name : String) : Bool :=
  g.summary.boundaryTags.contains name || name == s.summary.containerTag

def openSummary (g : Grammar) (name : String) (s : State) : State :=
  if s.isBoundary g name then
    { s with summary := { s.summary with depth := s.summary.depth + 1 } }
  else s

def appendSummary (content : String) (s : State) : State :=
  { s with work := { s.work with summary := s.work.summary ++ content } }

def textSummary (content : String) (s : State) : State :=
  if s.summary.depth = 1 && !Text.isBlankText content then s.appendSummary content else s

def closeSummary (g : Grammar) (name : String) (s : State) : State :=
  if name = "p" then s.appendSummary "\n\n"
  else if name = "br" then s.appendSummary "\n"
  else if s.isBoundary g name then
    let depth := s.summary.depth - 1
    { s with
      mode := if depth = 0 then .idle else s.mode
      summary := { s.summary with depth } }
  else s

/-! ## Author, artist and status -/

def openInfo (g : Grammar) (name : String) (attributes : Attributes) (s : State) : State :=
  if anyHolds g.info.label name attributes then
    { s with info := { s.info with readingLabel := true, labelTag := some name } }
  else s

/-- An empty value stands for an unknown person. -/
def personText (content : String) : String :=
  if content.isEmpty then "Unknown" else content

/-- The text as the value of the field that an earlier label introduced. -/
def assignInfo (content : String) (work : WorkDraft) : Option InfoField → WorkDraft
  | some .author => { work with author := work.author ++ personText content }
  | some .artist => { work with artist := work.artist ++ personText content }
  | some .status => { work with status := some (Status.ofText content) }
  | none => work

def textInfo (content : String) (s : State) : State :=
  if s.info.readingLabel then
    { s with
      work := assignInfo content s.work s.info.activeField
      info := { s.info with activeField := InfoField.ofLabel? content <|> s.info.activeField } }
  else s

/-- The active field has a value. -/
def fieldCaptured (s : State) : Bool :=
  match s.info.activeField with
  | some .author => !s.work.author.isEmpty
  | some .artist => !s.work.artist.isEmpty
  | some .status => s.work.status.isSome
  | none => false

def closeInfo (name : String) (s : State) : State :=
  if s.info.readingLabel && s.info.labelTag == some name then
    { s with info := { s.info with
        readingLabel := false
        labelTag := none
        activeField := if s.fieldCaptured then none else s.info.activeField } }
  else if name == s.info.endTag && (!s.info.readingLabel || s.info.labelTag.isNone) then
    { s with
      mode := .idle
      info := { s.info with readingLabel := false, activeField := none }
      work := { s.work with
        author := Text.trim s.work.author
        artist := Text.trim s.work.artist } }
  else s

/-! ## Chapters -/

def openItem (g : Grammar) (name : String) (attributes : Attributes) (s : State) : State :=
  if anyHolds g.chapters.item name attributes then
    { s with chapters := { s.chapters with
        draft := some {
          itemTag := name
          lockedByClass := anyHolds g.chapters.lockedItem name attributes }
        activeCell := none } }
  else s

/-- The address of a chapter relative to the site. -/
def chapterPath (g : Grammar) (attributes : Attributes) : String :=
  Text.trim (Text.eraseFirst g.site (attributes.value g.chapters.linkAttribute))

/-- The cell that an open tag begins. -/
def cellOf? (g : Grammar) (name : String) (attributes : Attributes) : Option Cell :=
  if anyHolds g.chapters.number name attributes then some .number
  else if anyHolds g.chapters.title name attributes then some .title
  else if anyHolds g.chapters.date name attributes then some .date
  else if anyHolds g.chapters.price name attributes then some .price
  else none

def openChapters (g : Grammar) (name : String) (attributes : Attributes) (s : State) : State :=
  match s.chapters.draft with
  | none => s.openItem g name attributes
  | some draft =>
      if name = g.chapters.linkTag ∧ draft.path.isNone then
        { s with chapters := { s.chapters with
            draft := some { draft with path := some (chapterPath g attributes) } } }
      else match cellOf? g name attributes with
        | some cell => { s with chapters := { s.chapters with activeCell := some cell } }
        | none => s

def takeNumber (content : String) (draft : ChapterDraft) :
    Except Text.NumeralTooLong ChapterDraft :=
  (trailingNumber? content).map fun
    | some n => { draft with number := some n }
    | none => draft

def numberText (g : Grammar) (content : String) (c : ChapterState) (draft : ChapterDraft) :
    Except Text.NumeralTooLong ChapterState := do
  let marked := Text.occursIn g.chapters.lockGlyph content
  let draft ← takeNumber content draft
  .ok { c with
    draft := some draft
    paid := if marked then true else if c.lockMarkerSeen then false else c.paid
    lockMarkerSeen := c.lockMarkerSeen || marked }

/-- The digits of a title count only while there is no other number. -/
def titleText (workName content : String) (c : ChapterState) (draft : ChapterDraft) :
    Except Text.NumeralTooLong ChapterState := do
  let named := { draft with name := stripWorkName content workName }
  let draft ← if draft.number.getD 0 = 0 then takeNumber content named else .ok named
  .ok { c with draft := some draft }

def cellText (g : Grammar) (workName content : String) (c : ChapterState)
    (draft : ChapterDraft) : Cell → Except Text.NumeralTooLong ChapterState
  | .number => numberText g content c draft
  | .title => titleText workName content c draft
  | .date => .ok { c with draft := some { draft with releaseTime := some content } }
  | .price => .ok { c with paid := !isFree content }

def textChapters (g : Grammar) (content : String) (s : State) :
    Except Text.NumeralTooLong State :=
  match s.chapters.draft, s.chapters.activeCell with
  | some draft, some cell =>
      (cellText g s.work.name content s.chapters draft cell).map fun chapters =>
        { s with chapters }
  | _, _ => .ok s

/-- The finished item: hidden if it is locked and the caller wants no locked chapters, left out if
it has no link, and kept otherwise. -/
def finishChapter (g : Grammar) (p : Policy) (draft : ChapterDraft) (c : ChapterState) :
    ChapterState :=
  let c := { c with draft := none, activeCell := none }
  let locked := c.paid || draft.lockedByClass
  if locked && p.hideLocked then { c with hidden := c.hidden + 1 }
  else
    let path := draft.path.getD ""
    if path.isEmpty then c
    else
      { c with records := c.records ++ [{
          path
          name := if locked then g.chapters.lockGlyph ++ " " ++ draft.name else draft.name
          releaseTime := draft.releaseTime
          number := draft.number.getD 0
          locked }] }

def closeChapters (g : Grammar) (p : Policy) (name : String) (s : State) : State :=
  match s.chapters.draft with
  | some draft =>
      if s.chapters.activeCell.isSome then
        { s with chapters := { s.chapters with activeCell := none } }
      else if name = draft.itemTag then
        { s with chapters := finishChapter g p draft s.chapters }
      else s
  | none => if name = s.chapters.endTag then s.enter .idle else s

/-! ## Steps -/

def stepOpened (g : Grammar) (name : String) (attributes : Attributes) (s : State) : State :=
  let s := s.captureCover g name attributes
  match s.mode with
  | .idle => s.openIdle g name attributes
  | .genres => s.openGenres g name attributes
  | .summary => s.openSummary g name
  | .info => s.openInfo g name attributes
  | .chapters => s.openChapters g name attributes
  | .title | .rating => s

def stepText (g : Grammar) (content : String) (s : State) : Except Text.NumeralTooLong State :=
  match s.mode with
  | .idle => .ok s
  | .title | .rating => .ok (s.textField content)
  | .genres => .ok (s.textGenres content)
  | .summary => .ok (s.textSummary content)
  | .info => .ok (s.textInfo content)
  | .chapters => s.textChapters g content

def stepClosed (g : Grammar) (p : Policy) (name : String) (s : State) : State :=
  match s.mode with
  | .idle => s
  | .title => s.closeTitle name
  | .rating => s.closeRating name
  | .genres => s.closeGenres name
  | .summary => s.closeSummary g name
  | .info => s.closeInfo name
  | .chapters => s.closeChapters g p name

def count (s : State) : State :=
  { s with seen := s.seen + 1 }

/-- Reads one event. It fails only on a chapter number beyond the limit on numerals. -/
def step (g : Grammar) (p : Policy) (s : State) : Event → Except Text.NumeralTooLong State
  | .opened name attributes => .ok (s.count.stepOpened g name attributes)
  | .text content => s.count.stepText g content
  | .closed name => .ok (s.count.stepClosed g p name)

def run (g : Grammar) (p : Policy) (s : State) (events : List Event) :
    Except Text.NumeralTooLong State :=
  events.foldlM (step g p) s

end State

end Feuilleton
