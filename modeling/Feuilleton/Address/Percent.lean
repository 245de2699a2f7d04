import Feuilleton.Encoding.Utf8
import Feuilleton.Text.Word

/-!
# Percent encoding

Every byte of the UTF-8 form of a text that is no unreserved character is written as a percent
sign with two uppercase hexadecimal digits.
-/

namespace Feuilleton.Address

def isUnreserved (c : Char) : Bool :=
  Text.isAsciiAlphanumeric c || c == '_' || c == '.' || c == '-' || c == '~'

def hexDigit (n : Nat) : Char :=
  if n < 10 then Char.ofNat (48 + n) else Char.ofNat (55 + n)

def percentByte (b : UInt8) : List Char :=
  ['%', hexDigit (b.toNat / 16), hexDigit (b.toNat % 16)]

def percentChar (c : Char) : List Char :=
  if isUnreserved c then [c] else (Encoding.Utf8.encodeChar c).flatMap percentByte

def percentEncode (s : String) : String :=
  String.ofList (s.toList.flatMap percentChar)

end Feuilleton.Address
