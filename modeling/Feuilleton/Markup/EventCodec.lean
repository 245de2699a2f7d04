import Feuilleton.Json.Printer
import Feuilleton.Json.Reader
import Feuilleton.Markup.Event
import Feuilleton.Schema.Scalar

/-!
# Events as JSON

The member `kind` says which of the three kinds an event has.
-/

namespace Feuilleton.Event

def encode : Event → Json
  | opened name attributes =>
      .obj [("kind", .str "open"), ("name", .str name),
        ("attributes", .obj (attributes.entries.map fun (key, value) => (key, .str value)))]
  | text content => .obj [("kind", .str "text"), ("content", .str content)]
  | closed name => .obj [("kind", .str "close"), ("name", .str name)]

def decodeOpened (members : Members) : Checked Event :=
  opened <$> Decoder.required "name" Decoder.text members
    <*> Decoder.optional "attributes" ∅ (Decoder.orderedMap Decoder.text) members

def decodeText (members : Members) : Checked Event :=
  text <$> Decoder.required "content" Decoder.text members

def decodeClosed (members : Members) : Checked Event :=
  closed <$> Decoder.required "name" Decoder.text members

def decode : Decoder Event
  | .obj members =>
      match Json.member? members "kind" with
      | none => .issue .missingTag
      | some (.str "open") => (decodeOpened members).below "open"
      | some (.str "text") => (decodeText members).below "text"
      | some (.str "close") => (decodeClosed members).below "close"
      | some _ => .issue .unknownTag
  | _ => .issue .mapType

def encodeList (events : List Event) : Json :=
  .arr (events.map encode)

def decodeList : Decoder (List Event) :=
  Decoder.list decode

/-- Reads the events of a stream from their text. -/
def listOfText (text : String) : Checked (List Event) :=
  match Json.read? text with
  | some value => decodeList value
  | none => .issue .malformedText

end Feuilleton.Event
