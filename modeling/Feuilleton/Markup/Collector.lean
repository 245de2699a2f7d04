import Feuilleton.Markup.Event
import Feuilleton.Text.Lowercase

/-!
# Collecting events

A reader of markup signals what it meets, text in pieces of any size. The collector makes events
of the signals: it joins the pieces between two other signals and puts names into lowercase. The
events of a page do not depend on when they are taken out.
-/

namespace Feuilleton

inductive Signal
  | started (name : String) (attributes : List (String × String))
  | ended (name : String)
  | data (content : String)
  | comment
  deriving DecidableEq, Repr

/-- Finished events and the pieces of the present text, the last one first. -/
structure Collector where
  events : List Event := []
  pieces : List String := []
  deriving DecidableEq, Repr

namespace Collector

/-- Ends the present text, if there is any. -/
def flush (collector : Collector) : Collector :=
  if collector.pieces.isEmpty then collector
  else { events := .text (String.join collector.pieces.reverse) :: collector.events }

def add (collector : Collector) (event : Event) : Collector :=
  { events := event :: collector.flush.events }

def lowered (attributes : List (String × String)) : Attributes :=
  OrderedMap.ofList (attributes.map fun (key, value) => (Text.lower key, value))

def receive (collector : Collector) : Signal → Collector
  | .started name attributes => collector.add (.opened (Text.lower name) (lowered attributes))
  | .ended name => collector.add (.closed (Text.lower name))
  | .data content => { collector with pieces := content :: collector.pieces }
  | .comment => collector.flush

/-- Takes the finished events out, in their order. -/
def drain (collector : Collector) : List Event × Collector :=
  (collector.events.reverse, { collector with events := [] })

/-- All events of a run of signals. -/
def collect (signals : List Signal) : List Event :=
  (signals.foldl receive {}).flush.drain.1

end Collector

end Feuilleton
