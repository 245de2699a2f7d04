import Feuilleton.Failure
import Feuilleton.Markup.Nesting
import Feuilleton.Page.Basic

/-!
# Reading works

A page becomes a work: it is repaired, read as events, and these are extracted by the grammar of
its site. A strict reader refuses works in which nothing was found.
-/

namespace Feuilleton

/-- The events of a page; a blank page has none to speak of. -/
def eventsOf (body : String) : Except Failure (List Event) :=
  if Text.isBlankText body then .error .emptyDocument else .ok (Markup.events body)

structure Reader where
  grammar : Grammar
  policy : Policy
  strict : Bool := false

namespace Reader

/-- Sites without locked chapters have none to hide. -/
def effectivePolicy (g : Grammar) (p : Policy) : Policy :=
  { p with hideLocked := p.hideLocked && g.hasLocked }

def ofGrammar (g : Grammar) (p : Policy) (strict : Bool) : Reader where
  grammar := g
  policy := effectivePolicy g p
  strict := strict

def extractEvents (r : Reader) (events : List Event) (path : String) : Except Failure Work :=
  match extract r.grammar r.policy path events with
  | .error e => .error (.extraction e)
  | .ok work =>
      if r.strict && work.isEmpty then
        .error (.structureMismatch r.grammar.id r.grammar.site path)
      else .ok work

def readPage (r : Reader) (page : Page) (path : String) : Except Failure Work := do
  r.extractEvents (← eventsOf page.body) path

def readText (r : Reader) (html path : String) : Except Failure Work :=
  r.readPage (Page.ofText html) path

def readBytes (r : Reader) (bytes : Encoding.Bytes) (path : String) : Except Failure Work := do
  r.readPage (← (Page.ofBytes bytes).mapError .encoding) path

end Reader

end Feuilleton
