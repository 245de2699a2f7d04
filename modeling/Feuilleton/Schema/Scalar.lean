import Feuilleton.Schema.Basic
import Feuilleton.Text.Blank
import Feuilleton.Text.Digit

/-!
# Decoding of scalars

Texts come from texts only. Truth values and numbers are taken in several spellings: numbers and
texts stand for truth values, truth values and texts for numbers, as long as nothing is lost.
-/

namespace Feuilleton

/-! ## Numbers in texts -/

/-- Removes underscores between other characters. One at an end or next to another one makes the
text unreadable. -/
def withoutUnderscores? (cs : List Char) : Option (List Char) :=
  let rec pairs : List Char → Bool
    | '_' :: '_' :: _ => true
    | _ :: rest => pairs rest
    | [] => false
  if cs.head? = some '_' ∨ cs.getLast? = some '_' ∨ pairs cs then none
  else some (cs.filter (· != '_'))

def isAsciiDigit (c : Char) : Bool :=
  '0' ≤ c && c ≤ '9'

/-- A sign and what follows it; a missing sign counts as plus. -/
def splitSign : List Char → Bool × List Char
  | '-' :: rest => (true, rest)
  | '+' :: rest => (false, rest)
  | rest => (false, rest)

def readInt? (s : String) : Option Int := do
  let (negative, rest) := splitSign (Text.trimList s.toList)
  let whole := rest.takeWhile (· != '.')
  let fraction := (rest.dropWhile (· != '.')).drop 1
  if fraction.all (· == '0') then
    let digits ← withoutUnderscores? whole
    if digits.isEmpty ∨ !digits.all isAsciiDigit ∨ Text.maxDigits < digits.length then none
    else
      let value : Int := Text.numeralValue digits
      some (if negative then -value else value)
  else none

def specialFloat? (negative : Bool) (cs : List Char) : Option Binary64 :=
  let name := String.ofList (cs.map Char.toLower)
  if name = "nan" then some .nan
  else if name = "inf" ∨ name = "infinity" then some (.infinite negative)
  else none

/-- The exponent behind `e`; no exponent is zero. -/
def readExponent? : List Char → Option Int
  | [] => some 0
  | c :: rest =>
      if c = 'e' ∨ c = 'E' then
        let (negative, digits) := splitSign rest
        if digits.isEmpty ∨ !digits.all isAsciiDigit then none
        else
          let value : Int := Text.numeralValue digits
          some (if negative then -value else value)
      else none

def readPlainFloat? (cs : List Char) : Option Binary64 := do
  let (negative, rest) := splitSign cs
  match specialFloat? negative rest with
  | some value => some value
  | none =>
      let whole := rest.takeWhile isAsciiDigit
      let rest := rest.dropWhile isAsciiDigit
      let (fraction, rest) := match rest with
        | '.' :: rest => (rest.takeWhile isAsciiDigit, rest.dropWhile isAsciiDigit)
        | rest => ([], rest)
      if whole.isEmpty ∧ fraction.isEmpty then none
      else
        let exponent ← readExponent? rest
        some (.ofDecimal negative (Text.numeralValue (whole ++ fraction))
          (exponent - fraction.length))

def readFloat? (s : String) : Option Binary64 :=
  let cs := Text.trimList s.toList
  match readPlainFloat? cs with
  | some value => some value
  | none => (withoutUnderscores? cs).bind readPlainFloat?

def readBool? (s : String) : Option Bool :=
  let word := s.map Char.toLower
  if ["true", "yes", "on", "t", "y", "1"].contains word then some true
  else if ["false", "no", "off", "f", "n", "0"].contains word then some false
  else none

namespace Decoder

def text : Decoder String
  | .str s => .valid s
  | _ => .issue .stringType

def nonemptyText : Decoder String
  | .str s => if s.isEmpty then .issue .stringTooShort else .valid s
  | _ => .issue .stringType

def boolOfInt (i : Int) : Checked Bool :=
  if i = 0 then .valid false else if i = 1 then .valid true else .issue .boolParsing

/-- Words of at most 64 binary digits are numbers of a truth value, larger ones are not. -/
def isMachineInt (i : Int) : Bool :=
  -0x8000000000000000 ≤ i && i < 0x8000000000000000

def bool : Decoder Bool
  | .bool b => .valid b
  | .int i => if isMachineInt i then boolOfInt i else .issue .boolType
  | .float x =>
      match x.toInt? with
      | some i => boolOfInt i
      | none => .issue .boolType
  | .str s =>
      match readBool? s with
      | some b => .valid b
      | none => .issue .boolParsing
  | _ => .issue .boolType

def int : Decoder Int
  | .int i => .valid i
  | .bool b => .valid (if b then 1 else 0)
  | .float x =>
      match x.toInt? with
      | some i => .valid i
      | none => .issue (if x.isFinite then .intFromFloat else .finiteNumber)
  | .str s =>
      match readInt? s with
      | some i => .valid i
      | none => .issue .intParsing
  | _ => .issue .intType

def float : Decoder Binary64
  | .float x => .valid x
  | .int i => .valid (.ofInt i)
  | .bool b => .valid (.ofInt (if b then 1 else 0))
  | .str s =>
      match readFloat? s with
      | some x => .valid x
      | none => .issue .floatParsing
  | _ => .issue .floatType

def positiveFloat : Decoder Binary64 := fun value =>
  (float value).bind fun x => if x.isPositive then .valid x else .issue .notPositive

end Decoder

end Feuilleton
