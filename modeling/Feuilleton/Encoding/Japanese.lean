import Feuilleton.Encoding.JapaneseRuns
import Feuilleton.Encoding.Step

/-!
# Japanese encodings

Rows and cells of JIS X 0208 are folded into two bytes in one family of encodings and marked by
the highest bit in the other. Both have halfwidth kana of one byte.
-/

namespace Feuilleton.Encoding

namespace Japanese

def isKana (n : Nat) : Bool := 0xA1 ≤ n && n ≤ 0xDF

def kana (n : Nat) : Char := Char.ofNat (0xFEC0 + n)

/-- The currency sign and the overline take the places of two signs of ASCII. -/
def romanChar (b : UInt8) : Char :=
  if b = 0x5C then '¥' else if b = 0x7E then '‾' else Char.ofNat b.toNat

/-! ## Folded rows -/

def isFoldedTrail (n : Nat) : Bool :=
  0x40 ≤ n && n ≤ 0xFC && n != 0x7F

/-- The position of a second byte among the 188 of two rows. -/
def foldedCell (n : Nat) : Nat :=
  if n < 0x80 then n - 0x40 else n - 0x41

/-- Row and cell of a folded pair. -/
def unfold (a b : Nat) : Nat :=
  let row := 2 * (if a < 0xE0 then a - 0x81 else a - 0xC1)
  let cell := foldedCell b
  if cell < 94 then pairCode (row + 0x21) (cell + 0x21)
  else pairCode (row + 0x22) (cell - 94 + 0x21)

def isFoldedLead (n : Nat) : Bool :=
  (0x81 ≤ n && n ≤ 0x9F) || (0xE0 ≤ n && n ≤ 0xFC)

def findFolded? (jis : CharacterSet) (a b : Nat) : Option Char :=
  if isFoldedTrail b then jis.find? (unfold a b) else none

def shiftedStep (jis : CharacterSet) (roman : Bool) (b : UInt8) (rest : Bytes) : Step :=
  if isAscii b then .taken [if roman then romanChar b else Char.ofNat b.toNat] 1
  else if isKana b.toNat then .taken [kana b.toNat] 1
  else if isFoldedLead b.toNat then pairStep (findFolded? jis) b rest
  else .wrong 1

/-! ## Code page 932 -/

/-- Single bytes that are no lead bytes, some of them with private characters. -/
def windowsSingle? (n : Nat) : Option Char :=
  if n ≤ 0x80 then some (Char.ofNat n)
  else if n = 0xA0 then some (Char.ofNat 0xF8F0)
  else if isKana n then some (kana n)
  else if 0xFD ≤ n then some (Char.ofNat (0xF8F1 + (n - 0xFD)))
  else none

def findWindows? (jis windows : CharacterSet) (a b : Nat) : Option Char :=
  (windows.find? (pairCode a b)).or
    (if !isFoldedTrail b then none
    else if a ≤ 0xEA then jis.find? (unfold a b)
    else if 0xF0 ≤ a ∧ a ≤ 0xF9 then
      some (Char.ofNat (0xE000 + 188 * (a - 0xF0) + foldedCell b))
    else none)

def windowsStep (jis windows : CharacterSet) (b : UInt8) (rest : Bytes) : Step :=
  match windowsSingle? b.toNat with
  | some c => .taken [c] 1
  | none => pairStep (findWindows? jis windows) b rest

/-! ## Marked rows -/

def findMarked? (jis : CharacterSet) (a b : Nat) : Option Char :=
  (cellCode? a b).bind jis.find?

/-- A character of the supplement, of three bytes. -/
def supplementStep (supplement : CharacterSet) : Bytes → Step
  | a :: b :: _ => .ofFound (findMarked? supplement a.toNat b.toNat) 3
  | _ => .cut

def markedStep (jis supplement : CharacterSet) (b : UInt8) (rest : Bytes) : Step :=
  if b = 0x8E then
    pairStep (fun _ n => if isKana n then some (kana n) else none) b rest
  else if b = 0x8F then supplementStep supplement rest
  else mixedStep (findMarked? jis) b rest

/-! ## Texts -/

def decodeShifted (roman : Bool) (bytes : Bytes) : List Char :=
  decodeEach (shiftedStep (.ofRuns jisRuns) roman) bytes

def decodeWindows (bytes : Bytes) : List Char :=
  decodeEach (windowsStep (.ofRuns jisRuns) (.ofRuns windowsJapaneseRuns)) bytes

def decodeMarked (bytes : Bytes) : List Char :=
  decodeEach (markedStep (.ofRuns jisRuns) (.ofRuns jisSupplementRuns)) bytes

end Japanese

end Feuilleton.Encoding
