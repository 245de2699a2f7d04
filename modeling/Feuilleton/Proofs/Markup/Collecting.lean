import Feuilleton.Markup.Collector
import Feuilleton.Proofs.Text.Keyed

/-!
# Collecting in batches

The pieces of text between two other signals are one text, whether or not finished events are
taken out between the pieces. All batches together are therefore the same events, each of which
belongs to one signal or to one longest run of pieces.
-/

namespace Feuilleton

namespace Signal

def isData : Signal → Bool
  | data _ => true
  | _ => false

def piece? : Signal → Option String
  | data content => some content
  | _ => none

/-- The attributes with their names in lowercase, each name once, where it comes first, and with
the last value that was given under it. -/
def namedOnce (attributes : List (String × String)) : Attributes :=
  let pairs := attributes.map fun (name, value) => (Text.lower name, value)
  { entries := lastTexts pairs, nodup_keys := nodup_lastTexts pairs }

theorem lowered_eq (attributes : List (String × String)) :
    Collector.lowered attributes = namedOnce attributes :=
  OrderedMap.eq_of_entries_eq (OrderedMap.entries_ofList _)

/-- The events of a run of signals. A text goes on to the next signal that is no piece of it. -/
def events (signals : List Signal) : List Event :=
  match signals with
  | [] => []
  | .data content :: rest =>
      .text (String.join (content :: (rest.takeWhile isData).filterMap piece?)) ::
        events (rest.dropWhile isData)
  | .started name attributes :: rest =>
      .opened (Text.lower name) (namedOnce attributes) :: events rest
  | .ended name :: rest => .closed (Text.lower name) :: events rest
  | .comment :: rest => events rest
termination_by signals.length
decreasing_by
  all_goals
    have hrest := (List.dropWhile_suffix (l := rest) isData).length_le
    simp only [List.length_cons]
    omega

/-- The text of pieces between two other signals; without any piece there is none. -/
def textOf : List String → List Event
  | [] => []
  | pieces => [.text (String.join pieces)]

theorem events_pieces_append {pieces : List String} {rest : List Signal}
    (h : ∀ signal ∈ rest.head?, isData signal = false) :
    events (pieces.map data ++ rest) = textOf pieces ++ events rest := by
  cases pieces with
  | nil => rfl
  | cons piece pieces =>
      have hpieces : ∀ signal ∈ pieces.map data, isData signal = true := by
        intro signal hsignal
        obtain ⟨content, -, rfl⟩ := List.mem_map.1 hsignal
        rfl
      have hrest : rest.takeWhile isData = [] ∧ rest.dropWhile isData = rest := by
        cases rest with
        | nil => exact ⟨rfl, rfl⟩
        | cons signal rest =>
            have hsignal := h signal rfl
            simp [hsignal]
      have hcontents : (pieces.map data).filterMap piece? = pieces := by
        rw [List.filterMap_map]
        exact List.filterMap_some
      rw [List.map_cons, List.cons_append, events, List.takeWhile_append_of_pos hpieces,
        List.dropWhile_append_of_pos hpieces, hrest.1, hrest.2, List.append_nil, hcontents]
      rfl

end Signal

namespace Collector

open Signal (textOf)

variable {collector : Collector} {rest : List Signal}

theorem pieces_flush (collector : Collector) : collector.flush.pieces = [] := by
  unfold flush
  split
  · rename_i hnone
    exact List.isEmpty_iff.1 hnone
  · rfl

theorem reverse_events_flush (collector : Collector) :
    collector.flush.events.reverse =
      collector.events.reverse ++ textOf collector.pieces.reverse := by
  unfold flush
  cases hpieces : collector.pieces with
  | nil => simp [textOf]
  | cons piece pieces =>
      cases hreverse : (piece :: pieces).reverse with
      | nil => simp at hreverse
      | cons first others => simp [textOf]

/-! ## Signals and batches -/

/-- The finished events, and those that the present text and further signals will be. -/
def owed (collector : Collector) (rest : List Signal) : List Event :=
  collector.events.reverse ++ Signal.events (collector.pieces.reverse.map .data ++ rest)

theorem owed_of_head? (h : ∀ signal ∈ rest.head?, signal.isData = false) :
    collector.owed rest = collector.flush.events.reverse ++ Signal.events rest := by
  rw [owed, Signal.events_pieces_append h, reverse_events_flush, List.append_assoc]

theorem owed_cons {signal : Signal} (h : signal.isData = false) :
    collector.owed (signal :: rest) =
      collector.flush.events.reverse ++ Signal.events (signal :: rest) :=
  owed_of_head? fun _ hsignal => Option.some.inj hsignal ▸ h

/-- What is owed for a signal is the same before and after the collector has got it. -/
theorem owed_receive (collector : Collector) (signal : Signal) (rest : List Signal) :
    (collector.receive signal).owed rest = collector.owed (signal :: rest) := by
  cases signal with
  | data content => simp [receive, owed]
  | comment =>
      rw [owed_cons rfl, Signal.events, receive, owed, pieces_flush]
      rfl
  | started name attributes =>
      rw [owed_cons rfl, Signal.events, ← Signal.lowered_eq]
      simp [receive, add, owed]
  | ended name =>
      rw [owed_cons rfl, Signal.events]
      simp [receive, add, owed]

theorem drain_append_owed (collector : Collector) (rest : List Signal) :
    collector.drain.1 ++ collector.drain.2.owed rest = collector.owed rest := by
  simp [drain, owed]

theorem drain_flush (collector : Collector) : collector.flush.drain.1 = collector.owed [] := by
  rw [owed_of_head? (by simp), Signal.events, List.append_nil, drain]

/-! ## Requests -/

/-- What is asked of a collector: to receive a signal, or to give out its finished events. -/
inductive Request
  | receive (signal : Signal)
  | drain
  deriving DecidableEq, Repr

def Request.signal? : Request → Option Signal
  | receive signal => some signal
  | drain => none

/-- The batches that a collector gives out, the last one when all requests are served and the
present text has ended. -/
def batches (collector : Collector) : List Request → List (List Event)
  | [] => [collector.flush.drain.1]
  | .receive signal :: rest => (collector.receive signal).batches rest
  | .drain :: rest => collector.drain.1 :: collector.drain.2.batches rest

/-- By induction on the requests. None of them changes what is owed. -/
theorem flatten_batches_eq_owed (collector : Collector) (requests : List Request) :
    (collector.batches requests).flatten = collector.owed (requests.filterMap Request.signal?) := by
  induction requests generalizing collector with
  | nil => simp [batches, drain_flush]
  | cons request requests ih =>
      cases request with
      | receive signal =>
          rw [batches, ih, owed_receive]
          rfl
      | drain =>
          rw [batches, List.flatten_cons, ih, drain_append_owed]
          rfl

theorem owed_foldl_receive (collector : Collector) (signals : List Signal) :
    (signals.foldl receive collector).owed [] = collector.owed signals := by
  induction signals generalizing collector with
  | nil => rfl
  | cons signal signals ih => rw [List.foldl_cons, ih, owed_receive]

theorem owed_empty (signals : List Signal) :
    ({} : Collector).owed signals = Signal.events signals :=
  rfl

theorem collect_eq (signals : List Signal) : collect signals = Signal.events signals := by
  rw [collect, drain_flush, owed_foldl_receive, owed_empty]

/-- All batches together are the events of the signals, wherever events were taken out between
them. They are the events that are collected when none are taken out before the end. -/
theorem flatten_batches (requests : List Request) :
    (batches {} requests).flatten = Signal.events (requests.filterMap Request.signal?) ∧
      (batches {} requests).flatten = collect (requests.filterMap Request.signal?) := by
  have hbatches := flatten_batches_eq_owed {} requests
  rw [owed_empty] at hbatches
  exact ⟨hbatches, hbatches.trans (collect_eq _).symm⟩

theorem flatten_batches_repeatedName :
    (batches {} [.receive (.data "a"), .drain, .receive (.data "b"),
      .receive (.started "DIV" [("Class", "x"), ("ID", "y"), ("class", "z")]), .drain,
      .receive (.data "c"), .receive .comment, .receive (.data "d"),
      .receive (.ended "Div")]).flatten =
      [.text "ab", .opened "div" { entries := [("class", "z"), ("id", "y")] }, .text "c",
        .text "d", .closed "div"] := by
  rw [(flatten_batches _).1]
  decide +kernel

example : batches {} [.receive (.data "a"), .drain, .receive (.data ""), .receive (.ended "B")] =
    [[], [.text "a", .closed "b"]] := by
  decide +kernel

end Collector

end Feuilleton
