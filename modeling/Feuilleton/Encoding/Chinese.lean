import Feuilleton.Encoding.ChineseRuns
import Feuilleton.Encoding.Step
import Feuilleton.Encoding.TaiwanRuns

/-!
# Chinese encodings

The national set in rows and cells and the larger sets built on it, up to the one that reaches all
of Unicode with four bytes; the set of Taiwan with its supplements; and a form of the national set
in seven bits.
-/

namespace Feuilleton.Encoding.Chinese

/-! ## The national sets -/

def findNational? (national : CharacterSet) (a b : Nat) : Option Char :=
  (cellCode? a b).bind national.find?

def findExtended? (national extended : CharacterSet) (a b : Nat) : Option Char :=
  (extended.find? (pairCode a b)).or (findNational? national a b)

/-- Characters for private use, in three areas. -/
def findPrivate? (a b : Nat) : Option Char :=
  let upper := 0xA1 ≤ b && b ≤ 0xFE
  if 0xAA ≤ a ∧ a ≤ 0xAF ∧ upper then some (Char.ofNat (0xE000 + 94 * (a - 0xAA) + (b - 0xA1)))
  else if 0xF8 ≤ a ∧ a ≤ 0xFE ∧ upper then
    some (Char.ofNat (0xE234 + 94 * (a - 0xF8) + (b - 0xA1)))
  else if 0xA1 ≤ a ∧ a ≤ 0xA7 ∧ 0x40 ≤ b ∧ b ≤ 0xA0 ∧ b ≠ 0x7F then
    some (Char.ofNat (0xE4C6 + 96 * (a - 0xA1) + (if b < 0x7F then b - 0x40 else b - 0x41)))
  else none

def findUnified? (national extended unified : CharacterSet) (a b : Nat) : Option Char :=
  ((findExtended? national extended a b).or (unified.find? (pairCode a b))).or (findPrivate? a b)

/-! ## Four bytes -/

def isDigitByte (b : UInt8) : Bool := 0x30 ≤ b && b ≤ 0x39

def isLeadByte (b : UInt8) : Bool := 0x81 ≤ b && b ≤ 0xFE

/-- The character of a number among the four-byte sequences for the basic plane. -/
def basicNumber? (n : Nat) : Option Nat :=
  if n < 39420 then
    (fourByteRanges.findRev? fun (start, _) => start ≤ n).map fun (start, first) =>
      first + (n - start)
  else none

def fourByteNumber? (a b c d : UInt8) : Option Nat :=
  if isLeadByte a && isLeadByte c && isDigitByte d then
    let row := a.toNat - 0x81
    let cell := (b.toNat - 0x30) * 1260 + (c.toNat - 0x81) * 10 + (d.toNat - 0x30)
    if row < 4 then basicNumber? (row * 12600 + cell)
    else if 15 ≤ row then
      let n := 0x10000 + (row - 15) * 12600 + cell
      if n ≤ 0x10FFFF then some n else none
    else none
  else none

def fourByteStep (a : UInt8) : Bytes → Step
  | b :: c :: d :: _ => .ofFound ((fourByteNumber? a b c d).map Char.ofNat) 4
  | _ => .cut

def unifiedStep (find? : Nat → Nat → Option Char) (b : UInt8) (rest : Bytes) : Step :=
  if !isAscii b && rest.head?.any isDigitByte then fourByteStep b rest
  else mixedStep find? b rest

/-! ## Taiwan and Hong Kong -/

def findBigFive? (bigFive : CharacterSet) (a b : Nat) : Option Char :=
  bigFive.find? (pairCode a b)

def findWindows? (bigFive windows : CharacterSet) (a b : Nat) : Option Char :=
  (windows.find? (pairCode a b)).or (findBigFive? bigFive a b)

/-- Rows that the supplement fills anew. -/
def isRefilled (a b : Nat) : Bool :=
  (a = 0xC6 && 0xA1 ≤ b) || a = 0xC7 || a = 0xC8

/-- A letter with two marks has no character of its own. -/
def markedLetter? (code : Nat) : Option (List Char) :=
  match code with
  | 0x8862 => some ['Ê', '\u0304']
  | 0x8864 => some ['Ê', '\u030c']
  | 0x88A3 => some ['ê', '\u0304']
  | 0x88A5 => some ['ê', '\u030c']
  | _ => none

def findHongKong? (bigFive hongKong : CharacterSet) (a b : Nat) : Option (List Char) :=
  let supplement := (hongKong.find? (pairCode a b)).map fun c => [c]
  let base := if isRefilled a b then none else (findBigFive? bigFive a b).map fun c => [c]
  (supplement.or base).or (markedLetter? (pairCode a b))

def hongKongStep (find? : Nat → Nat → Option (List Char)) (b : UInt8) (rest : Bytes) : Step :=
  if isAscii b then asciiStep b
  else
    match rest with
    | [] => .cut
    | c :: _ =>
        match find? b.toNat c.toNat with
        | some characters => .taken characters 2
        | none => .wrong 1

/-! ## Seven bits -/

/-- Between a tilde with an opening brace and one with a closing brace stand pairs. -/
def tildeStep (paired : Bool) (c : UInt8) : Step × Bool :=
  if c = 0x7E && !paired then (.taken ['~'] 2, false)
  else if c = 0x7B && !paired then (.taken [] 2, true)
  else if c = 0x0A && !paired then (.taken [] 2, false)
  else if c = 0x7D && paired then (.taken [] 2, false)
  else (.wrong 1, paired)

def sevenBitStep (national : CharacterSet) (paired : Bool) (b : UInt8) (rest : Bytes) :
    Step × Bool :=
  if b = 0x7E then
    match rest with
    | [] => (.cut, paired)
    | c :: _ => tildeStep paired c
  else if !isAscii b then (.wrong 1, paired)
  else if paired then
    (pairStep (fun a c => national.find? (pairCode a c)) b rest, paired)
  else (asciiStep b, paired)

/-! ## Texts -/

def decodeNational (bytes : Bytes) : List Char :=
  decodeEach (mixedStep (findNational? (.ofRuns nationalRuns))) bytes

def decodeExtended (bytes : Bytes) : List Char :=
  decodeEach (mixedStep (findExtended? (.ofRuns nationalRuns) (.ofRuns extendedRuns))) bytes

def decodeUnified (bytes : Bytes) : List Char :=
  let find? := findUnified? (.ofRuns nationalRuns) (.ofRuns extendedRuns) (.ofRuns unifiedRuns)
  decodeEach (unifiedStep find?) bytes

def decodeBigFive (bytes : Bytes) : List Char :=
  decodeEach (mixedStep (findBigFive? (.ofRuns bigFiveRuns))) bytes

def decodeWindows (bytes : Bytes) : List Char :=
  decodeEach (mixedStep (findWindows? (.ofRuns bigFiveRuns) (.ofRuns windowsTaiwanRuns))) bytes

def decodeHongKong (bytes : Bytes) : List Char :=
  decodeEach (hongKongStep (findHongKong? (.ofRuns bigFiveRuns) (.ofRuns hongKongRuns))) bytes

def decodeSevenBit (bytes : Bytes) : List Char :=
  decodeSteps (sevenBitStep (.ofRuns nationalRuns)) false 0 bytes

end Feuilleton.Encoding.Chinese
