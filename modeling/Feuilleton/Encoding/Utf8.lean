/-!
# UTF-8

Encoding of characters in one to four bytes, and decoding of any bytes: every longest beginning of
an encoded character that does not go on becomes one U+FFFD, and so does every byte that begins no
character. Strict reading stops there instead.
-/

namespace Feuilleton.Encoding

abbrev Bytes := List UInt8

def replacement : Char := '\ufffd'

/-- Bytes that stand for no character, and why. -/
structure Fault where
  codec : String
  bytes : Bytes
  reason : String
  deriving DecidableEq, Repr

def Fault.message (fault : Fault) (position : Nat) : String :=
  let first := toString position
  let place := match fault.bytes with
    | [byte] => "byte 0x" ++ String.ofList (Nat.toDigits 16 byte.toNat) ++ " in position " ++ first
    | bytes => "bytes in position " ++ first ++ "-" ++ toString (position + bytes.length - 1)
  "'" ++ fault.codec ++ "' codec can't decode " ++ place ++ ": " ++ fault.reason

namespace Utf8

/-- A continuation byte with six bits of a number. -/
def continuation (bits : Nat) : UInt8 :=
  UInt8.ofNat (0x80 + bits % 64)

def encodeChar (c : Char) : Bytes :=
  let n := c.toNat
  if n < 0x80 then [UInt8.ofNat n]
  else if n < 0x800 then [UInt8.ofNat (0xC0 + n / 64), continuation n]
  else if n < 0x10000 then
    [UInt8.ofNat (0xE0 + n / 4096), continuation (n / 64), continuation n]
  else
    [UInt8.ofNat (0xF0 + n / 262144), continuation (n / 4096), continuation (n / 64),
      continuation n]

def encode (s : String) : Bytes :=
  s.toList.flatMap encodeChar

/-! ## Decoding -/

def isContinuation (b : UInt8) : Bool :=
  0x80 ≤ b && b ≤ 0xBF

def bits (b : UInt8) : Nat :=
  b.toNat % 64

/-- The second byte of three: no overlong forms and no surrogates. -/
def isSecondOfThree (lead b : UInt8) : Bool :=
  if lead = 0xE0 then 0xA0 ≤ b && b ≤ 0xBF
  else if lead = 0xED then 0x80 ≤ b && b ≤ 0x9F
  else isContinuation b

/-- The second byte of four: no overlong forms and nothing beyond the last character. -/
def isSecondOfFour (lead b : UInt8) : Bool :=
  if lead = 0xF0 then 0x90 ≤ b && b ≤ 0xBF
  else if lead = 0xF4 then 0x80 ≤ b && b ≤ 0x8F
  else isContinuation b

inductive Lead
  | one
  | two
  | three
  | four
  | none
  deriving DecidableEq, Repr

def leadOf (b : UInt8) : Lead :=
  if b < 0x80 then .one
  else if 0xC2 ≤ b ∧ b ≤ 0xDF then .two
  else if 0xE0 ≤ b ∧ b ≤ 0xEF then .three
  else if 0xF0 ≤ b ∧ b ≤ 0xF4 then .four
  else .none

/-- The first character of a nonempty text and the number of bytes it takes. -/
def decodeFirst (b : UInt8) (rest : Bytes) : Char × Nat :=
  match leadOf b, rest with
  | .one, _ => (Char.ofNat b.toNat, 1)
  | .two, c :: _ =>
      if isContinuation c then (Char.ofNat (b.toNat % 32 * 64 + bits c), 2) else (replacement, 1)
  | .three, c :: d :: _ =>
      if isSecondOfThree b c then
        if isContinuation d then
          (Char.ofNat ((b.toNat % 16 * 64 + bits c) * 64 + bits d), 3)
        else (replacement, 2)
      else (replacement, 1)
  | .three, [c] => (replacement, if isSecondOfThree b c then 2 else 1)
  | .four, c :: d :: e :: _ =>
      if isSecondOfFour b c then
        if isContinuation d then
          if isContinuation e then
            (Char.ofNat (((b.toNat % 8 * 64 + bits c) * 64 + bits d) * 64 + bits e), 4)
          else (replacement, 3)
        else (replacement, 2)
      else (replacement, 1)
  | .four, [c, d] =>
      (replacement, if isSecondOfFour b c then if isContinuation d then 3 else 2 else 1)
  | .four, [c] => (replacement, if isSecondOfFour b c then 2 else 1)
  | _, _ => (replacement, 1)

def decodeList (bytes : Bytes) : List Char :=
  match bytes with
  | [] => []
  | b :: rest =>
      let (c, size) := decodeFirst b rest
      c :: decodeList (rest.drop (size - 1))
termination_by bytes.length
decreasing_by simp only [List.length_drop, List.length_cons]; omega

def decode (bytes : Bytes) : String :=
  String.ofList (decodeList bytes)

/-! ## Strict reading -/

/-- What is wrong with the first bytes of a text; `later` are those behind them. -/
def faultOf (bytes later : Bytes) : Fault where
  codec := "utf-8"
  bytes := bytes
  reason :=
    if bytes.head?.map leadOf = some .none then "invalid start byte"
    else if later.isEmpty then "unexpected end of data"
    else "invalid continuation byte"

/-- The first bytes that are not those of a character, and their position. -/
def findFault? (position : Nat) (bytes : Bytes) : Option (Fault × Nat) :=
  match bytes with
  | [] => none
  | b :: rest =>
      let (c, size) := decodeFirst b rest
      let first := b :: rest.take (size - 1)
      let later := rest.drop (size - 1)
      if first = encodeChar c then findFault? (position + size) later
      else some (faultOf first later, position)
termination_by bytes.length
decreasing_by simp only [List.length_drop, List.length_cons]; omega

end Utf8

end Feuilleton.Encoding
