import Feuilleton.Encoding.Utf8

/-!
# UTF-16 and UTF-32

Units of two or four bytes in either order. Where the order is not fixed, a byte order mark at the
beginning decides and is left out; without one the low byte comes first. A unit that stands for no
character is one U+FFFD, and so are the bytes of an unfinished unit at the end.
-/

namespace Feuilleton.Encoding

inductive ByteOrder
  | low
  | high
  deriving DecidableEq, Repr

/-! ## UTF-16 -/

namespace Utf16

def unit (order : ByteOrder) (a b : UInt8) : Nat :=
  match order with
  | .low => a.toNat + 256 * b.toNat
  | .high => 256 * a.toNat + b.toNat

def isLeading (unit : Nat) : Bool :=
  0xD800 ≤ unit && unit < 0xDC00

def isTrailing (unit : Nat) : Bool :=
  0xDC00 ≤ unit && unit < 0xE000

def decodeList (order : ByteOrder) : Bytes → List Char
  | [] => []
  | [_] => [replacement]
  | a :: b :: rest =>
      let first := unit order a b
      if isLeading first then
        match rest with
        | c :: d :: rest' =>
            let second := unit order c d
            if isTrailing second then
              Char.ofNat (0x10000 + (first - 0xD800) * 0x400 + (second - 0xDC00)) ::
                decodeList order rest'
            else replacement :: decodeList order (c :: d :: rest')
        | _ => [replacement]
      else if isTrailing first then replacement :: decodeList order rest
      else Char.ofNat first :: decodeList order rest

def decodeMarked : Bytes → List Char
  | 0xFF :: 0xFE :: rest => decodeList .low rest
  | 0xFE :: 0xFF :: rest => decodeList .high rest
  | bytes => decodeList .low bytes

end Utf16

/-! ## UTF-32 -/

namespace Utf32

def unit (order : ByteOrder) (a b c d : UInt8) : Nat :=
  match order with
  | .low => a.toNat + 256 * (b.toNat + 256 * (c.toNat + 256 * d.toNat))
  | .high => d.toNat + 256 * (c.toNat + 256 * (b.toNat + 256 * a.toNat))

def character (n : Nat) : Char :=
  if n < 0xD800 ∨ (0xE000 ≤ n ∧ n < 0x110000) then Char.ofNat n else replacement

def decodeList (order : ByteOrder) : Bytes → List Char
  | a :: b :: c :: d :: rest => character (unit order a b c d) :: decodeList order rest
  | [] => []
  | _ => [replacement]

def decodeMarked : Bytes → List Char
  | 0xFF :: 0xFE :: 0 :: 0 :: rest => decodeList .low rest
  | 0 :: 0 :: 0xFE :: 0xFF :: rest => decodeList .high rest
  | bytes => decodeList .low bytes

end Utf32

end Feuilleton.Encoding
