import Feuilleton.Json.Basic
import Feuilleton.Text.Digit

/-!
# Reading JSON

A strict reader: no comments, no trailing commas, no control characters in strings, no escapes of
single surrogates, no integers over `Text.maxDigits` digits and no nesting beyond `maxDepth`. The
names `NaN` and `Infinity` are numbers.
-/

namespace Feuilleton.Json

def isSpace (c : Char) : Bool :=
  c == ' ' || c == '\n' || c == '\r' || c == '\t'

def skipSpace (cs : List Char) : List Char :=
  cs.dropWhile isSpace

/-! ## Strings -/

def hexDigit? (c : Char) : Option Nat :=
  if '0' ≤ c ∧ c ≤ '9' then some (c.toNat - '0'.toNat)
  else if 'a' ≤ c ∧ c ≤ 'f' then some (c.toNat - 'a'.toNat + 10)
  else if 'A' ≤ c ∧ c ≤ 'F' then some (c.toNat - 'A'.toNat + 10)
  else none

def hexQuad? (a b c d : Char) : Option Nat := do
  let a ← hexDigit? a
  let b ← hexDigit? b
  let c ← hexDigit? c
  let d ← hexDigit? d
  some (((a * 16 + b) * 16 + c) * 16 + d)

def simpleEscape? (c : Char) : Option Char :=
  if c = '"' ∨ c = '\\' ∨ c = '/' then some c
  else if c = 'n' then some '\n'
  else if c = 'r' then some '\r'
  else if c = 't' then some '\t'
  else if c = 'b' then some '\x08'
  else if c = 'f' then some '\x0c'
  else none

/-- The characters up to the closing quote and what stands behind it; `done` holds the characters
read so far, the last one first. -/
def readString (done : List Char) : List Char → Option (String × List Char)
  | [] => none
  | '"' :: rest => some (String.ofList done.reverse, rest)
  | '\\' :: 'u' :: a :: b :: c :: d :: rest =>
      match hexQuad? a b c d with
      | none => none
      | some unit =>
          if 0xD800 ≤ unit ∧ unit < 0xDC00 then
            match rest with
            | '\\' :: 'u' :: e :: f :: g :: h :: rest =>
                match hexQuad? e f g h with
                | none => none
                | some low =>
                    if 0xDC00 ≤ low ∧ low < 0xE000 then
                      let code := 0x10000 + (unit - 0xD800) * 0x400 + (low - 0xDC00)
                      readString (Char.ofNat code :: done) rest
                    else none
            | _ => none
          else if 0xDC00 ≤ unit ∧ unit < 0xE000 then none
          else readString (Char.ofNat unit :: done) rest
  | '\\' :: c :: rest =>
      match simpleEscape? c with
      | some escaped => readString (escaped :: done) rest
      | none => none
  | c :: rest => if c.toNat < 0x20 then none else readString (c :: done) rest

/-! ## Numbers -/

def isDecimal (c : Char) : Bool :=
  '0' ≤ c && c ≤ '9'

def takeDigits (cs : List Char) : List Char × List Char :=
  (cs.takeWhile isDecimal, cs.dropWhile isDecimal)

def decimalValue (digits : List Char) : Nat :=
  digits.foldl (fun value c => 10 * value + (c.toNat - '0'.toNat)) 0

/-- The digits after a point; none where no point follows. -/
def readFraction : List Char → Option (List Char × List Char)
  | '.' :: rest =>
      let (digits, rest) := takeDigits rest
      if digits.isEmpty then none else some (digits, rest)
  | rest => some ([], rest)

def readPower : List Char → Option (Option Int × List Char)
  | c :: rest =>
      if c = 'e' ∨ c = 'E' then
        let (negative, rest) := match rest with
          | '+' :: rest => (false, rest)
          | '-' :: rest => (true, rest)
          | rest => (false, rest)
        let (digits, rest) := takeDigits rest
        if digits.isEmpty then none
        else
          let size : Int := decimalValue digits
          some (some (if negative then -size else size), rest)
      else some (none, c :: rest)
  | [] => some (none, [])

def readMagnitude (negative : Bool) (cs : List Char) : Option (Json × List Char) := do
  let (whole, rest) := takeDigits cs
  if whole.isEmpty ∨ (1 < whole.length ∧ whole.head? = some '0') then none
  else
    let (fraction, rest) ← readFraction rest
    let (power?, rest) ← readPower rest
    match fraction, power? with
    | [], none =>
        if Text.maxDigits < whole.length then none
        else
          let value : Int := decimalValue whole
          some (int (if negative then -value else value), rest)
    | _, _ =>
        let power := power?.getD 0 - fraction.length
        some (float (.ofDecimal negative (decimalValue (whole ++ fraction)) power), rest)

/-! ## Values -/

def dropWord? (word : String) (cs : List Char) : Option (List Char) :=
  if word.toList.isPrefixOf cs then some (cs.drop word.toList.length) else none

def readScalar (cs : List Char) : Option (Json × List Char) :=
  match cs with
  | '"' :: rest => (readString [] rest).map fun (s, rest) => (str s, rest)
  | '-' :: 'I' :: rest =>
      (dropWord? "Infinity" ('I' :: rest)).map (float (.infinite true), ·)
  | '-' :: rest => readMagnitude true rest
  | 'n' :: rest => (dropWord? "null" ('n' :: rest)).map (null, ·)
  | 't' :: rest => (dropWord? "true" ('t' :: rest)).map (bool true, ·)
  | 'f' :: rest => (dropWord? "false" ('f' :: rest)).map (bool false, ·)
  | 'N' :: rest => (dropWord? "NaN" ('N' :: rest)).map (float .nan, ·)
  | 'I' :: rest => (dropWord? "Infinity" ('I' :: rest)).map (float (.infinite false), ·)
  | cs => readMagnitude false cs

mutual

/-- One value at the head of the text. The first number bounds the steps, the second one is how
much deeper containers may be nested. -/
def readValue : Nat → Nat → List Char → Option (Json × List Char)
  | 0, _, _ => none
  | steps + 1, depth, cs =>
      match skipSpace cs with
      | '[' :: rest =>
          match depth with
          | 0 => none
          | depth + 1 =>
              match skipSpace rest with
              | ']' :: rest => some (arr [], rest)
              | rest => (readItems steps depth rest).map fun (items, rest) => (arr items, rest)
      | '\x7b' :: rest =>
          match depth with
          | 0 => none
          | depth + 1 =>
              match skipSpace rest with
              | '\x7d' :: rest => some (obj [], rest)
              | rest =>
                  (readMembers steps depth rest).map fun (members, rest) => (obj members, rest)
      | cs => readScalar cs

def readItems : Nat → Nat → List Char → Option (List Json × List Char)
  | 0, _, _ => none
  | steps + 1, depth, cs =>
      match readValue steps depth cs with
      | none => none
      | some (item, rest) =>
          match skipSpace rest with
          | ',' :: rest =>
              (readItems steps depth rest).map fun (items, rest) => (item :: items, rest)
          | ']' :: rest => some ([item], rest)
          | _ => none

def readMembers : Nat → Nat → List Char → Option (List (String × Json) × List Char)
  | 0, _, _ => none
  | steps + 1, depth, cs =>
      match skipSpace cs with
      | '"' :: rest =>
          match readString [] rest with
          | none => none
          | some (name, rest) =>
              match skipSpace rest with
              | ':' :: rest =>
                  match readValue steps depth rest with
                  | none => none
                  | some (value, rest) =>
                      match skipSpace rest with
                      | ',' :: rest =>
                          (readMembers steps depth rest).map fun (members, rest) =>
                            ((name, value) :: members, rest)
                      | '\x7d' :: rest => some ([(name, value)], rest)
                      | _ => none
              | _ => none
      | _ => none

end

def readChars? (cs : List Char) : Option Json :=
  match readValue (2 * cs.length + 2) maxDepth cs with
  | some (value, rest) => if (skipSpace rest).isEmpty then some value else none
  | none => none

def read? (s : String) : Option Json :=
  readChars? s.toList

end Feuilleton.Json
