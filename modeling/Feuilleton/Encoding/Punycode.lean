import Feuilleton.Encoding.Utf8

/-!
# Punycode

Characters beyond ASCII are inserted one after the other, in ascending order, into the ASCII
characters before the last hyphen. Each is one number: how many positions further and how many
characters later it comes. Digits that are unfinished or none at all end the insertions.
-/

namespace Feuilleton.Encoding.Punycode

/-! ## Numbers -/

/-- Values of digits: letters come first. -/
def digit? (c : Char) : Option Nat :=
  if 'A' ≤ c ∧ c ≤ 'Z' then some (c.toNat - 65)
  else if '0' ≤ c ∧ c ≤ '9' then some (c.toNat - 48 + 26)
  else none

/-- A digit below its threshold is the last of a number. -/
def threshold (index bias : Nat) : Nat :=
  max 1 (min 26 (36 * (index + 1) - bias))

def biasOf (step : Nat) (delta : Nat) : Nat :=
  if 455 < delta then biasOf (step + 36) (delta / 35) else step + 36 * delta / (delta + 38)
termination_by delta
decreasing_by omega

/-- The bias behind a number by which a text has come to `size` characters. -/
def adapt (isFirst : Bool) (delta size : Nat) : Nat :=
  let delta := if isFirst then delta / 700 else delta / 2
  biasOf 0 (delta + delta / size)

/-! ## Insertions -/

structure Progress where
  text : List Char
  code : Nat := 0x80
  /-- The position behind the last insertion. -/
  position : Nat := 0
  bias : Nat := 72
  isFirst : Bool := true
  deriving DecidableEq, Repr

/-- Beyond the last character all codes are those of a question mark. -/
def lastCode : Nat := 0x10FFFF

def Progress.insert (progress : Progress) (delta : Nat) : Progress :=
  let places := progress.text.length + 1
  let total := progress.position + delta
  let code := progress.code + total / places
  let code := if lastCode < code then '?'.toNat else code
  let c := if code.isValidChar then Char.ofNat code else '?'
  let position := total % places
  { text := progress.text.take position ++ c :: progress.text.drop position
    code
    position := position + 1
    bias := adapt progress.isFirst delta places
    isFirst := false }

/-- Reads numbers digit by digit; `value` is what has been read of one. -/
def insertAll (progress : Progress) (value weight index : Nat) : List Char → List Char
  | [] => progress.text
  | c :: rest =>
      match digit? c with
      | none => progress.text
      | some digit =>
          let limit := threshold index progress.bias
          let value := value + digit * weight
          if digit < limit then insertAll (progress.insert value) 0 1 0 rest
          else insertAll progress value (weight * (36 - limit)) (index + 1) rest

/-! ## Texts -/

def hyphen : UInt8 := 0x2D

/-- The bytes before and behind the last hyphen. -/
def split (bytes : Bytes) : Bytes × Bytes :=
  let reversed := bytes.reverse
  ((reversed.dropWhile (· != hyphen)).drop 1 |>.reverse,
    (reversed.takeWhile (· != hyphen)).reverse)

/-- The first byte behind the last hyphen that is not ASCII, and its position there. -/
def foreignByte? (bytes : Bytes) : Option (UInt8 × Nat) :=
  (split bytes).2.zipIdx.find? fun (b, _) => 0x80 ≤ b

def faultOf (byte : UInt8) : Fault where
  codec := "ascii"
  bytes := [byte]
  reason := "ordinal not in range(128)"

def decodeList (bytes : Bytes) : List Char :=
  let (base, numbers) := split bytes
  let text := base.map fun b => if b < 0x80 then Char.ofNat b.toNat else replacement
  insertAll { text } 0 1 0 (numbers.map fun b => (Char.ofNat b.toNat).toUpper)

end Feuilleton.Encoding.Punycode
