import Feuilleton.Encoding.KoreanRuns
import Feuilleton.Encoding.Step

/-!
# Korean encodings

The national set has rows and cells; the syllables that are missing there are written as four
letters in one encoding and follow in their order in another one. A third encoding combines the
letters of every syllable in fifteen bits.
-/

namespace Feuilleton.Encoding.Korean

/-- The syllable with the given initial, vowel and final letter. -/
def syllable (initial vowel final : Nat) : Char :=
  Char.ofNat (0xAC00 + initial * 588 + vowel * 28 + final)

def findNational? (national : CharacterSet) (a b : Nat) : Option Char :=
  (cellCode? a b).bind national.find?

/-! ## Letters -/

def initialLetters : List Char := "ㄱㄲㄴㄷㄸㄹㅁㅂㅃㅅㅆㅇㅈㅉㅊㅋㅌㅍㅎ".toList

def finalLetters : List Char := "ㄱㄲㄳㄴㄵㄶㄷㄹㄺㄻㄼㄽㄾㄿㅀㅁㅂㅄㅅㅆㅇㅈㅊㅋㅌㅍㅎ".toList

def vowelLetter (n : Nat) : Char := Char.ofNat (0x314F + n)

/-! ## Syllables of four letters -/

def fillerCell : UInt8 := 0xD4

def consonant? (letters : List Char) (b : UInt8) : Option Nat :=
  if 0xA1 ≤ b then letters.idxOf? (Char.ofNat (0x3131 + (b.toNat - 0xA1))) else none

def vowel? (b : UInt8) : Option Nat :=
  if 0xBF ≤ b ∧ b ≤ 0xD3 then some (b.toNat - 0xBF) else none

def final? (b : UInt8) : Option Nat :=
  if b = fillerCell then some 0 else (consonant? finalLetters b).map (· + 1)

def composed? (initial vowel final : UInt8) : Option Char := do
  let initial ← consonant? initialLetters initial
  let vowel ← vowel? vowel
  let final ← final? final
  some (syllable initial vowel final)

/-- Four letters, the first of them a filler. -/
def composedStep : Bytes → Step
  | _ :: a :: initial :: b :: vowel :: c :: final :: _ =>
      if a = 0xA4 ∧ b = 0xA4 ∧ c = 0xA4 then .ofFound (composed? initial vowel final) 8
      else .wrong 1
  | _ => .cut

def composingStep (national : CharacterSet) (b : UInt8) (rest : Bytes) : Step :=
  if b = 0xA4 ∧ rest.head? = some fillerCell then composedStep rest
  else mixedStep (findNational? national) b rest

/-! ## Syllables in order -/

/-- The syllables that the national set does not have. -/
def missingSyllables (national : CharacterSet) : Array Char :=
  let known := national.flatMap fun (_, run) =>
    run.toList.filter fun c => '가' ≤ c && c ≤ '힣'
  go known ((List.range 11172).map fun n => Char.ofNat (0xAC00 + n)) #[]
where
  go (known : List Char) : List Char → Array Char → Array Char
    | [], missing => missing
    | c :: rest, missing =>
        if known.head? = some c then go (known.drop 1) rest missing
        else go known rest (missing.push c)

/-- The position of a second byte: letters, small letters and upper bytes. -/
def trailIndex? (n : Nat) : Option Nat :=
  if 0x41 ≤ n ∧ n ≤ 0x5A then some (n - 0x41)
  else if 0x61 ≤ n ∧ n ≤ 0x7A then some (n - 0x61 + 26)
  else if 0x81 ≤ n ∧ n ≤ 0xFE then some (n - 0x81 + 52)
  else none

/-- The number of a pair among those for missing syllables; rows are shorter from 0xA1 on. -/
def missingIndex? (a b : Nat) : Option Nat :=
  (trailIndex? b).bind fun cell =>
    if 0x81 ≤ a ∧ a ≤ 0xA0 then some ((a - 0x81) * 178 + cell)
    else if 0xA1 ≤ a ∧ cell < 84 then some (32 * 178 + (a - 0xA1) * 84 + cell)
    else none

def findOrdered? (national : CharacterSet) (missing : Array Char) (a b : Nat) : Option Char :=
  (findNational? national a b).or ((missingIndex? a b).bind fun n => missing[n]?)

/-! ## Syllables of fifteen bits -/

/-- What five bits stand for: no letter, or the one at a position. -/
inductive Place
  | empty
  | letter (position : Nat)
  deriving DecidableEq, Repr

def initialPlace? (n : Nat) : Option Place :=
  if n = 1 then some .empty
  else if 2 ≤ n ∧ n ≤ 20 then some (.letter (n - 2))
  else none

/-- Of every eight values the first two stand for nothing. -/
def vowelPlace? (n : Nat) : Option Place :=
  if n = 2 then some .empty
  else if 3 ≤ n ∧ n ≤ 29 ∧ 2 ≤ n % 8 then some (.letter (n - 3 - 2 * (n / 8)))
  else none

def finalPlace? (n : Nat) : Option Place :=
  if n = 1 then some .empty
  else if 2 ≤ n ∧ n ≤ 17 then some (.letter (n - 1))
  else if 19 ≤ n ∧ n ≤ 29 then some (.letter (n - 2))
  else none

/-- A syllable, or a letter alone. -/
def spelled? : Place → Place → Place → Option Char
  | .empty, .empty, .empty => some (Char.ofNat 0x3000)
  | .letter n, .empty, .empty => initialLetters[n]?
  | .empty, .letter n, .empty => some (vowelLetter n)
  | .empty, .empty, .letter n => finalLetters[n - 1]?
  | .letter initial, .letter vowel, .empty => some (syllable initial vowel 0)
  | .letter initial, .letter vowel, .letter final => some (syllable initial vowel final)
  | _, _, _ => none

def findSpelled? (a b : Nat) : Option Char := do
  let initial ← initialPlace? (a / 4 % 32)
  let vowel ← vowelPlace? (a % 4 * 8 + b / 32)
  let final ← finalPlace? (b % 32)
  spelled? initial vowel final

/-- Row and cell of a pair that is no syllable; the rows are folded. -/
def foldedCode? (a b : Nat) : Option Nat :=
  if a < 0xD9 ∨ a = 0xDF ∨ 0xF9 < a ∨ b < 0x31 ∨ (0x7F ≤ b ∧ b < 0x91) ∨ b = 0xFF ∨
      (a = 0xDA ∧ 0xA1 ≤ b ∧ b ≤ 0xD3) then none
  else
    let row := 2 * (if a < 0xE0 then a - 0xD9 else a - 0xE0) + (if a < 0xE0 then 0x21 else 0x4A)
    let cell := if b < 0x91 then b - 0x31 else b - 0x43
    some (if cell < 94 then pairCode row (cell + 0x21) else pairCode (row + 1) (cell - 94 + 0x21))

def findCombined? (national : CharacterSet) (a b : Nat) : Option Char :=
  if a < 0xD8 then findSpelled? a b else (foldedCode? a b).bind national.find?

/-! ## Texts -/

def decodeNational (bytes : Bytes) : List Char :=
  decodeEach (composingStep (.ofRuns koreanRuns)) bytes

def decodeOrdered (bytes : Bytes) : List Char :=
  let national := CharacterSet.ofRuns koreanRuns
  decodeEach (mixedStep (findOrdered? national (missingSyllables national))) bytes

def decodeCombined (bytes : Bytes) : List Char :=
  decodeEach (mixedStep (findCombined? (.ofRuns koreanRuns))) bytes

end Feuilleton.Encoding.Korean
