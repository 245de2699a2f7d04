import Feuilleton.Encoding.ByteTable
import Feuilleton.Encoding.EastAsian
import Feuilleton.Encoding.Escaped
import Feuilleton.Encoding.LabelTable
import Feuilleton.Encoding.Punycode
import Feuilleton.Encoding.Utf7
import Feuilleton.Encoding.Wide
import Feuilleton.Text.Word

/-!
# Encodings by name

An encoding is found by a label in any spelling: letter case does not count, and neither does
which signs stand between the words. Two encodings are known by name and decode nothing.
-/

namespace Feuilleton

inductive Encoding
  | utf8
  | utf8Marked
  | utf16 (order : Option Encoding.ByteOrder)
  | utf32 (order : Option Encoding.ByteOrder)
  | utf7
  | singleByte (table : Encoding.ByteTable)
  | eastAsian (encoding : Encoding.EastAsian)
  | escaped (raw : Bool)
  | punycode
  | undefined
  | hostNames
  deriving DecidableEq, Repr

/-- Why bytes are not decoded although their encoding is known. -/
inductive EncodingError
  | undefined
  | noReplacement
  | foreignByte (fault : Encoding.Fault) (position : Nat)
  deriving DecidableEq, Repr

def EncodingError.message : EncodingError → String
  | undefined => "decoding with 'undefined' codec failed (UnicodeError: undefined encoding)"
  | noReplacement =>
      "decoding with 'idna' codec failed (UnicodeError: Unsupported error handling replace)"
  | foreignByte fault position => fault.message position

namespace Encoding

/-! ## Labels -/

/-- Runs of characters other than letters, digits and points become one underscore; none stands at
an end. `gap` says that such a run has just been read. -/
def normalizeFrom (gap : Bool) (done : List Char) : List Char → List Char
  | [] => done.reverse
  | c :: rest =>
      if Text.isAlphanumeric c || c == '.' then
        let done := if gap && !done.isEmpty then '_' :: done else done
        normalizeFrom false (if c.toNat < 128 then c :: done else done) rest
      else normalizeFrom true done rest

def normalizeLabel (label : String) : String :=
  String.ofList (normalizeFrom false [] (label.toList.map Char.toLower))

def nameOfLabel? (label : String) : Option String :=
  let label := normalizeLabel label
  let undotted := label.map fun c => if c = '.' then '_' else c
  (labelTable.find? fun labels =>
    labels.dotted.contains label || labels.plain.contains label ||
      labels.dotted.contains undotted).map (·.name)

def ofName? (name : String) : Option Encoding :=
  match name with
  | "utf-8" => some .utf8
  | "utf-8-sig" => some .utf8Marked
  | "utf-16" => some (.utf16 none)
  | "utf-16-le" => some (.utf16 (some .low))
  | "utf-16-be" => some (.utf16 (some .high))
  | "utf-32" => some (.utf32 none)
  | "utf-32-le" => some (.utf32 (some .low))
  | "utf-32-be" => some (.utf32 (some .high))
  | "utf-7" => some .utf7
  | "unicode-escape" => some (.escaped false)
  | "raw-unicode-escape" => some (.escaped true)
  | "punycode" => some .punycode
  | "undefined" => some .undefined
  | "idna" => some .hostNames
  | name =>
      ((byteTables.find? (·.name == name)).map .singleByte).or
        ((EastAsian.ofName? name).map .eastAsian)

def ofLabel? (label : String) : Option Encoding :=
  (nameOfLabel? label).bind ofName?

/-! ## Decoding -/

def ByteTable.character (table : ByteTable) (characters : Array Char) (b : UInt8) : Char :=
  if b.toNat < table.first then Char.ofNat b.toNat
  else (characters[b.toNat - table.first]?).getD replacement

def ByteTable.decodeList (table : ByteTable) (bytes : Bytes) : List Char :=
  let characters := table.characters.toList.toArray
  bytes.map (table.character characters)

def decodeMarkedUtf8 : Bytes → List Char
  | 0xEF :: 0xBB :: 0xBF :: rest => Utf8.decodeList rest
  | bytes => Utf8.decodeList bytes

def decodeList (encoding : Encoding) (bytes : Bytes) : Except EncodingError (List Char) :=
  match encoding with
  | .utf8 => .ok (Utf8.decodeList bytes)
  | .utf8Marked => .ok (decodeMarkedUtf8 bytes)
  | .utf16 (some order) => .ok (Utf16.decodeList order bytes)
  | .utf16 none => .ok (Utf16.decodeMarked bytes)
  | .utf32 (some order) => .ok (Utf32.decodeList order bytes)
  | .utf32 none => .ok (Utf32.decodeMarked bytes)
  | .utf7 => .ok (Utf7.decodeList bytes)
  | .singleByte table => .ok (table.decodeList bytes)
  | .eastAsian encoding => .ok (encoding.decodeList bytes)
  | .escaped false => .ok (Escaped.decodeList bytes)
  | .escaped true => .ok (Escaped.decodeRaw bytes)
  | .punycode =>
      match Punycode.foreignByte? bytes with
      | some (byte, position) => .error (.foreignByte (Punycode.faultOf byte) position)
      | none => .ok (Punycode.decodeList bytes)
  | .undefined => if bytes.isEmpty then .ok [] else .error .undefined
  | .hostNames => if bytes.isEmpty then .ok [] else .error .noReplacement

def decode (encoding : Encoding) (bytes : Bytes) : Except EncodingError String :=
  (encoding.decodeList bytes).map String.ofList

end Encoding

end Feuilleton
