import Feuilleton.Extraction.Outcome
import Feuilleton.Markup.EventCodec
import Feuilleton.Proofs.Json.RoundTrip
import Feuilleton.Proofs.Schema.RoundTrip

/-!
# Recorded events

The events of a page can be written down and read again. Each comes back as it was, with its
attributes in their order, and an attribute that is called `kind` is not taken for the kind of its
event, so that a recording gives the same work as the page.
-/

namespace Feuilleton.Event

open Decoder
open Json (Plain)

/-! ## Single events -/

theorem below_eq_valid {α : Type} {step : String} {x : Checked α} {value : α}
    (h : x = .valid value) : x.below step = .valid value := by
  subst h
  rfl

theorem decode_inverts : Inverts decode encode := by
  intro event
  cases event with
  | opened name attributes =>
      have hnodup : ["kind", "name", "attributes"].Nodup := by decide
      refine below_eq_valid (Checked.seq_eq_valid (Checked.map_eq_valid ?_) ?_)
      · exact text_inverts.required hnodup (by simp)
      · exact text_inverts.orderedMap.optional _ hnodup (by simp)
  | text content =>
      have hnodup : ["kind", "content"].Nodup := by decide
      change (decodeText [("kind", .str "text"), ("content", .str content)]).below "text" = _
      refine below_eq_valid (Checked.map_eq_valid ?_)
      exact text_inverts.required hnodup (by simp)
  | closed name =>
      have hnodup : ["kind", "name"].Nodup := by decide
      change (decodeClosed [("kind", .str "close"), ("name", .str name)]).below "close" = _
      refine below_eq_valid (Checked.map_eq_valid ?_)
      exact text_inverts.required hnodup (by simp)

theorem plain_encode {depth : Nat} (event : Event) : Plain (depth + 2) event.encode := by
  cases event with
  | opened name attributes =>
      have hattributes : ∀ member ∈ attributes.entries.map fun entry => (entry.1, Json.str entry.2),
          Plain depth member.2 := by
        intro member hmember
        obtain ⟨entry, -, rfl⟩ := List.mem_map.1 hmember
        exact .str entry.2
      refine .obj ?_
      simp only [List.forall_mem_cons, Plain.str, true_and]
      exact ⟨.obj hattributes, by simp⟩
  | text content => exact .obj (by simp [Plain.str])
  | closed name => exact .obj (by simp [Plain.str])

/-! ## Streams -/

theorem plain_encodeList {depth : Nat} (events : List Event) :
    Plain (depth + 3) (encodeList events) := by
  refine .arr fun item hitem => ?_
  obtain ⟨event, -, rfl⟩ := List.mem_map.1 hitem
  exact event.plain_encode

theorem listOfText_of_read? {text : String} {events : List Event}
    (h : Json.read? text = some (encodeList events)) : listOfText text = .valid events := by
  simp only [listOfText, h]
  exact decode_inverts.list events

/-- In both layouts the text of a stream is read as this stream, and what is extracted from it is
what was extracted before. -/
theorem listOfText_encodeList (events : List Event) :
    listOfText (encodeList events).compact = .valid events ∧
      listOfText (encodeList events).indented = .valid events ∧
      ∀ (g : Grammar) (p : Policy) (path : String),
        (listOfText (encodeList events).compact).map (extract g p path) =
            .valid (extract g p path events) ∧
          (listOfText (encodeList events).indented).map (extract g p path) =
            .valid (extract g p path events) := by
  -- the attributes of an event are the third container, counted from the list
  have hplain : Plain Json.maxDepth (encodeList events) := @plain_encodeList 197 events
  have hcompact := listOfText_of_read? hplain.read?_compact
  have hindented := listOfText_of_read? hplain.read?_indented
  refine ⟨hcompact, hindented, fun g p path => ?_⟩
  rw [hcompact, hindented]
  exact ⟨rfl, rfl⟩

end Feuilleton.Event
