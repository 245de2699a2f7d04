import Feuilleton.Encoding.Utf8

/-!
# Decoding step by step

A character may take any number of bytes. At every place the bytes there are a character, or stand
for nothing, or the text ends within a character; the last two are one U+FFFD each.
-/

namespace Feuilleton.Encoding

/-- What stands at the front of bytes, and how many of them it takes. -/
inductive Step
  | taken (characters : List Char) (length : Nat)
  | wrong (length : Nat)
  | cut
  deriving DecidableEq, Repr

namespace Step

/-- The character found for some bytes; if there is none the first byte stands for nothing. -/
def ofFound (found : Option Char) (length : Nat) : Step :=
  match found with
  | some c => .taken [c] length
  | none => .wrong 1

/-- The number of a character; surrogates are none. -/
def ofNumber (n : Nat) (length : Nat) : Step :=
  .taken [if n.isValidChar then Char.ofNat n else '?'] length

end Step

/-- Decodes with a state; `skip` bytes belong to the last step. -/
def decodeSteps {σ : Type} (step : σ → UInt8 → Bytes → Step × σ) : σ → Nat → Bytes → List Char
  | _, _, [] => []
  | state, skip + 1, _ :: rest => decodeSteps step state skip rest
  | state, 0, b :: rest =>
      let (found, state) := step state b rest
      match found with
      | .taken characters length => characters ++ decodeSteps step state (length - 1) rest
      | .wrong length => replacement :: decodeSteps step state (length - 1) rest
      | .cut => [replacement]

/-- Decodes without a state. -/
def decodeEach (step : UInt8 → Bytes → Step) (bytes : Bytes) : List Char :=
  decodeSteps (fun _ b rest => (step b rest, ())) () 0 bytes

/-! ## Common steps -/

def isAscii (b : UInt8) : Bool := b < 0x80

def asciiStep (b : UInt8) : Step :=
  .taken [Char.ofNat b.toNat] 1

/-- A character of two bytes. -/
def pairStep (find? : Nat → Nat → Option Char) (b : UInt8) : Bytes → Step
  | [] => .cut
  | c :: _ => .ofFound (find? b.toNat c.toNat) 2

/-- ASCII, and pairs of bytes for everything else. -/
def mixedStep (find? : Nat → Nat → Option Char) (b : UInt8) (rest : Bytes) : Step :=
  if isAscii b then asciiStep b else pairStep find? b rest

/-- The code of two bytes. -/
def pairCode (a b : Nat) : Nat := 256 * a + b

/-- The code of two bytes with their highest bits set, by row and cell. -/
def cellCode? (a b : Nat) : Option Nat :=
  if 0xA1 ≤ a ∧ 0xA1 ≤ b then some (pairCode (a - 0x80) (b - 0x80)) else none

end Feuilleton.Encoding
