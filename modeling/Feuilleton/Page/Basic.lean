import Feuilleton.Encoding.Basic
import Feuilleton.Encoding.Declared
import Feuilleton.Page.Repair
import Feuilleton.Page.Title

/-!
# Pages

A page as it is read: repaired text, with what was learned while repairing it. Bytes are decoded
as the page declares; a label that names no encoding of text counts as UTF-8.
-/

namespace Feuilleton

structure Page where
  body : String
  charset : String := Encoding.defaultLabel
  title : Option String := none
  warnings : List String := []
  deriving DecidableEq, Repr

namespace Page

/-- A single surrogate is no character and is shown as a question mark. -/
def ofCodePoints (codes : List Nat) : String :=
  String.ofList (codes.map fun n => if n.isValidChar then Char.ofNat n else '?')

def ofDecoded (charset text : String) : Page :=
  let (body, warnings) := repair text
  { body, charset, title := titleOf body, warnings }

def ofText (text : String) : Page :=
  ofDecoded Encoding.defaultLabel text

/-- The text of a page and the label of the encoding that was used. -/
def decodeDeclared (bytes : Encoding.Bytes) : Except EncodingError (String × String) :=
  let label := Encoding.declaredLabel bytes
  match Encoding.ofLabel? label with
  | some encoding => (encoding.decode bytes).map (·, label)
  | none => .ok (Encoding.Utf8.decode bytes, Encoding.defaultLabel)

def ofBytes (bytes : Encoding.Bytes) : Except EncodingError Page :=
  (decodeDeclared bytes).map fun (text, charset) => ofDecoded charset text

end Page

end Feuilleton
