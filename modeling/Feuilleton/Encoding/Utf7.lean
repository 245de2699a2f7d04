import Feuilleton.Encoding.Utf8

/-!
# UTF-7

ASCII stands for itself. Between a plus sign and the first byte that is no digit of base 64 stand
the units of UTF-16 in six bits a byte; a hyphen at the end of such a section is left out.
-/

namespace Feuilleton.Encoding.Utf7

def digit? (b : UInt8) : Option Nat :=
  let n := b.toNat
  if 0x41 ≤ n ∧ n ≤ 0x5A then some (n - 0x41)
  else if 0x61 ≤ n ∧ n ≤ 0x7A then some (n - 0x61 + 26)
  else if 0x30 ≤ n ∧ n ≤ 0x39 then some (n - 0x30 + 52)
  else if n = 0x2B then some 62
  else if n = 0x2F then some 63
  else none

/-! ## Sections in base 64 -/

/-- Bits that are no whole unit yet, and the first unit of a pair. -/
structure Pending where
  count : Nat := 0
  bits : Nat := 0
  leading : Option Nat := none
  deriving DecidableEq, Repr

/-- A unit without its partner is no character. -/
def unpaired : Char := '?'

def Pending.pushUnit (pending : Pending) (unit : Nat) : List Char × Pending :=
  let isTrailing := 0xDC00 ≤ unit && unit < 0xE000
  match pending.leading, isTrailing with
  | some leading, true =>
      ([Char.ofNat (0x10000 + (leading - 0xD800) * 0x400 + (unit - 0xDC00))],
        { pending with leading := none })
  | leading, isTrailing =>
      let before := if leading.isSome then [unpaired] else []
      if 0xD800 ≤ unit ∧ unit < 0xDC00 then (before, { pending with leading := some unit })
      else
        (before ++ [if isTrailing then unpaired else Char.ofNat unit],
          { pending with leading := none })

def Pending.pushDigit (pending : Pending) (digit : Nat) : List Char × Pending :=
  let bits := pending.bits * 64 + digit
  let count := pending.count + 6
  if 16 ≤ count then
    let size := Nat.pow 2 (count - 16)
    { pending with count := count - 16, bits := bits % size }.pushUnit (bits / size)
  else ([], { pending with count, bits })

/-- Whether more is left than zeros that fill up the last digit. -/
def Pending.isPartial (pending : Pending) : Bool :=
  6 ≤ pending.count || pending.bits != 0

def Pending.isUnfinished (pending : Pending) : Bool :=
  pending.leading.isSome || pending.isPartial

/-! ## Texts -/

def plainChar (b : UInt8) : Char :=
  if b < 0x80 then Char.ofNat b.toNat else replacement

/-- What the byte behind a section stands for. -/
def afterSection (pending : Pending) (b : UInt8) : List Char :=
  if pending.isPartial then [replacement]
  else
    (if pending.leading.isSome && b < 0x80 then [unpaired] else []) ++
      (if b = 0x2D then [] else [plainChar b])

/-- Decodes outside a section, or in one with what is pending. -/
def decodeFrom : Option Pending → Bytes → List Char
  | none, [] => []
  | some pending, [] => if pending.isUnfinished then [replacement] else []
  | some pending, b :: rest =>
      match digit? b with
      | some digit =>
          let (characters, pending) := pending.pushDigit digit
          characters ++ decodeFrom (some pending) rest
      | none => afterSection pending b ++ decodeFrom none rest
  | none, b :: rest =>
      if b = 0x2B then
        match rest with
        | [] => []
        | c :: more =>
            if c = 0x2D then '+' :: decodeFrom none more
            else if (digit? c).isNone then replacement :: decodeFrom none more
            else decodeFrom (some {}) (c :: more)
      else plainChar b :: decodeFrom none rest

def decodeList (bytes : Bytes) : List Char :=
  decodeFrom none bytes

end Feuilleton.Encoding.Utf7
