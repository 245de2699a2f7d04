import Feuilleton.Encoding.Step

/-!
# Texts with escapes

A byte stands for the character with its number, and a backslash begins an escape: in the full
form one as in string literals, in the raw form only the number of a character. Characters cannot
be escaped by their names.
-/

namespace Feuilleton.Encoding.Escaped

def byteChar (b : UInt8) : Char := Char.ofNat b.toNat

def hexValue? (b : UInt8) : Option Nat :=
  let c := byteChar b
  if '0' ≤ c ∧ c ≤ '9' then some (c.toNat - 48)
  else if 'a' ≤ c ∧ c ≤ 'f' then some (c.toNat - 87)
  else if 'A' ≤ c ∧ c ≤ 'F' then some (c.toNat - 55)
  else none

/-- The values of the leading hexadecimal digits, at most `limit`. -/
def hexDigits (limit : Nat) (bytes : Bytes) : List Nat :=
  (bytes.take limit).map hexValue? |>.takeWhile Option.isSome |>.map (·.getD 0)

def isOctal (b : UInt8) : Bool := 0x30 ≤ b && b ≤ 0x37

/-- Digits that stand for nothing are taken together with the two bytes before them. -/
def hexStep (count : Nat) (bytes : Bytes) : Step :=
  let digits := hexDigits count bytes
  let n := digits.foldl (fun n d => 16 * n + d) 0
  if digits.length = count ∧ n < 0x110000 then .ofNumber n (count + 2)
  else .wrong (digits.length + 2)

def octalStep (bytes : Bytes) : Step :=
  let digits := (bytes.take 3).takeWhile isOctal
  .ofNumber (digits.foldl (fun n b => 8 * n + (b.toNat - 0x30)) 0) (digits.length + 1)

/-- A name in braces is passed over. -/
def nameStep (bytes : Bytes) : Step :=
  if bytes.head? = some 0x7B then
    let length := ((bytes.drop 1).takeWhile (· != 0x7D)).length
    if length + 1 < bytes.length then .wrong (if length = 0 then 3 else length + 4) else .cut
  else .wrong 2

def letterStep? (c : Char) : Option Step :=
  match c with
  | '\n' => some (.taken [] 2)
  | '\\' | '\'' | '"' => some (.taken [c] 2)
  | 'a' => some (.taken ['\x07'] 2)
  | 'b' => some (.taken ['\x08'] 2)
  | 't' => some (.taken ['\t'] 2)
  | 'n' => some (.taken ['\n'] 2)
  | 'v' => some (.taken ['\x0b'] 2)
  | 'f' => some (.taken ['\x0c'] 2)
  | 'r' => some (.taken ['\r'] 2)
  | _ => none

/-- The number of a character in four or eight digits. -/
def numberStep? (c : Char) (rest : Bytes) : Option Step :=
  match c with
  | 'u' => some (hexStep 4 rest)
  | 'U' => some (hexStep 8 rest)
  | _ => none

def escapeStep (c : UInt8) (rest : Bytes) : Step :=
  let name := byteChar c
  match (letterStep? name).or (numberStep? name rest) with
  | some found => found
  | none =>
      if name = 'x' then hexStep 2 rest
      else if name = 'N' then nameStep rest
      else if isOctal c then octalStep (c :: rest)
      else .taken ['\\', name] 2

def step (b : UInt8) (rest : Bytes) : Step :=
  if byteChar b = '\\' then
    match rest with
    | [] => .wrong 1
    | c :: rest => escapeStep c rest
  else .taken [byteChar b] 1

def rawStep (b : UInt8) (rest : Bytes) : Step :=
  if byteChar b = '\\' then
    match rest with
    | [] => .taken ['\\'] 1
    | c :: rest => (numberStep? (byteChar c) rest).getD (.taken ['\\', byteChar c] 2)
  else .taken [byteChar b] 1

def decodeList (bytes : Bytes) : List Char :=
  decodeEach step bytes

def decodeRaw (bytes : Bytes) : List Char :=
  decodeEach rawStep bytes

end Feuilleton.Encoding.Escaped
