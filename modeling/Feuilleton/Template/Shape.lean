import Feuilleton.Number.Binary64
import Feuilleton.Template.Layout

/-!
# Laying out values

Texts are cut and padded. Numbers consist of a sign, a mark of their base, the digits before the
point and the rest; only those digits are grouped and filled up with zeros.
-/

namespace Feuilleton.Template

def padBetween (left inner right : Nat) (fill : Char) (lead body : List Char) : List Char :=
  List.replicate left fill ++ lead ++ List.replicate inner fill ++ body ++
    List.replicate right fill

/-- Pads `lead` and `body` to the width of a layout. A text ends where positions do. -/
def Layout.pad (layout : Layout) (lead body : List Char) : Except Error (List Char) :=
  let width := layout.width.getD 0
  let missing := width - (lead.length + body.length)
  if maxIndex < lead.length + body.length + missing then .error .tooWide
  else .ok (match layout.align with
    | .left => padBetween 0 0 missing layout.fill lead body
    | .right => padBetween missing 0 0 layout.fill lead body
    | .center => padBetween (missing / 2) 0 (missing - missing / 2) layout.fill lead body
    | .afterSign => padBetween 0 missing 0 layout.fill lead body)

/-! ## Texts -/

def shapeText (content : List Char) (layout : Layout) : Except Error (List Char) :=
  if layout.type ≠ 's' then .error (.unknownType layout.type Kind.text.name)
  else match layout.sign with
    | some .blank => .error .spaceOnText
    | some _ => .error .signOnText
    | none =>
        if layout.positiveZero then .error .negativeZeroOnText
        else if layout.alternate then .error .alternateOnText
        else if layout.align = .afterSign then .error .signFillOnText
        else layout.pad [] (content.take (layout.precision.getD content.length))

/-! ## Grouped digits -/

/-- Puts the separator before every group but the first; the digits come from the last one on. -/
def groupFrom (separator : Char) (size count : Nat) : List Char → List Char
  | [] => []
  | c :: rest =>
      if count = size then separator :: c :: groupFrom separator size 1 rest
      else c :: groupFrom separator size (count + 1) rest

/-- How many digits make a text of at least `width` characters with separators between groups. -/
def digitsToFill (size width : Nat) : Nat :=
  (width - 1) / (size + 1) * size + (width - 1) % (size + 1) + 1

def fillZeros (count : Nat) (digits : List Char) : List Char :=
  List.replicate (count - digits.length) '0' ++ digits

/-- Digits with at least `width` characters, zeros in front. -/
def groupDigits (separator : Option Char) (size width : Nat) (digits : List Char) : List Char :=
  match separator with
  | none => fillZeros width digits
  | some separator =>
      let filled := if width = 0 then digits else fillZeros (digitsToFill size width) digits
      (groupFrom separator size 0 filled.reverse).reverse

/-! ## Numbers -/

structure Numeral where
  negative : Bool
  mark : List Char := []
  digits : List Char
  rest : List Char := []
  deriving DecidableEq, Repr

def signChars (style : Option SignStyle) (negative : Bool) : List Char :=
  if negative then ['-']
  else match style with
    | some .plus => ['+']
    | some .blank => [' ']
    | _ => []

def shapeNumeral (numeral : Numeral) (size : Nat) (layout : Layout) : Except Error (List Char) :=
  let lead := signChars layout.sign numeral.negative ++ numeral.mark
  let filled := layout.fill = '0' ∧ layout.align = .afterSign
  let width := if filled then layout.width.getD 0 - (lead.length + numeral.rest.length) else 0
  let digits := if numeral.digits.isEmpty then []
    else groupDigits layout.separator size width numeral.digits
  layout.pad lead (digits ++ numeral.rest)

/-! ## Whole numbers -/

def upper (cs : List Char) : List Char :=
  cs.map Char.toUpper

/-- Digits in a base of at most sixteen. -/
def wholeNumeral (base : Nat) (mark : List Char) (n : Int) : Numeral where
  negative := n < 0
  mark := mark
  digits := Nat.toDigits base n.natAbs

def shapeCharacter (n : Int) (layout : Layout) : Except Error (List Char) :=
  if layout.sign.isSome then .error .signOnCharacter
  else if layout.alternate then .error .alternateOnCharacter
  else if n < -0x8000000000000000 ∨ 0x8000000000000000 ≤ n then .error .characterTooLarge
  else if n < 0 ∨ 0x110000 ≤ n then .error .noCharacter
  else shapeNumeral ⟨false, [], [], [Char.ofNat n.toNat]⟩ 3 layout

def shapeWhole (n : Int) (layout : Layout) : Except Error (List Char) :=
  let mark := fun (letter : Char) => if layout.alternate then ['0', letter] else []
  if layout.precision.isSome then .error .precisionOnWhole
  else if layout.positiveZero then .error .negativeZeroOnWhole
  else match layout.type with
    | 'c' => shapeCharacter n layout
    | 'b' => shapeNumeral (wholeNumeral 2 (mark 'b') n) 4 layout
    | 'o' => shapeNumeral (wholeNumeral 8 (mark 'o') n) 4 layout
    | 'x' => shapeNumeral (wholeNumeral 16 (mark 'x') n) 4 layout
    | 'X' =>
        let numeral := wholeNumeral 16 (mark 'X') n
        shapeNumeral { numeral with digits := upper numeral.digits } 4 layout
    | _ =>
        if Text.IsWritable n then shapeNumeral (wholeNumeral 10 [] n) 3 layout
        else .error .tooManyDigits

/-! ## Whole numbers as floating point -/

/-- The nearest multiple of `unit`, over `unit`; a tie goes to the even neighbour. -/
def divRound (n unit : Nat) : Nat :=
  let below := n / unit
  let rest := n % unit
  if 2 * rest < unit ∨ (2 * rest = unit ∧ below % 2 = 0) then below else below + 1

/-- The first `count` significant digits, rounded, and the power of ten of the first one. -/
def significant (count n : Nat) : List Char × Nat :=
  let digits := Nat.toDigits 10 n
  if digits.length ≤ count then
    (digits ++ List.replicate (count - digits.length) '0', digits.length - 1)
  else
    let rounded := Nat.toDigits 10 (divRound n (Nat.pow 10 (digits.length - count)))
    if rounded.length = count then (rounded, digits.length - 1)
    else (rounded.take count, digits.length)

def exponentChars (power : Nat) : List Char :=
  'e' :: '+' :: (Text.padded 2 power).toList

/-- A fraction behind its point, which stands alone only in the alternate form. -/
def fractionChars (alternate : Bool) (fraction : List Char) : List Char :=
  if fraction.isEmpty && !alternate then [] else '.' :: fraction

def dropZeros (digits : List Char) : List Char :=
  (digits.reverse.dropWhile (· == '0')).reverse

def fixedParts (alternate : Bool) (precision n : Nat) : List Char × List Char :=
  (Nat.toDigits 10 n, fractionChars alternate (List.replicate precision '0'))

def exponentParts (alternate : Bool) (precision n : Nat) : List Char × List Char :=
  let (digits, power) := significant (precision + 1) n
  (digits.take 1, fractionChars alternate (digits.drop 1) ++ exponentChars power)

def generalParts (alternate : Bool) (precision n : Nat) : List Char × List Char :=
  let count := max precision 1
  let (digits, power) := significant count n
  let kept := fun (fraction : List Char) => if alternate then fraction else dropZeros fraction
  if power < count then
    (digits.take (power + 1), fractionChars alternate (kept (digits.drop (power + 1))))
  else (digits.take 1, fractionChars alternate (kept (digits.drop 1)) ++ exponentChars power)

def defaultPrecision : Nat := 6

def maxPrecision : Nat := 0x7FFFFFFF

/-- The magnitude of a floating point number without a fraction; none for infinity. -/
def magnitude? (x : Binary64) : Option Nat :=
  x.toInt?.map Int.natAbs

def floatParts (layout : Layout) (n : Int) : List Char × List Char :=
  let precision := layout.precision.getD defaultPrecision
  let parts := fun (render : Bool → Nat → Nat → List Char × List Char) (x : Binary64) =>
    match magnitude? x with
    | some n => render layout.alternate precision n
    | none => ([], "inf".toList)
  match layout.type.toLower with
  | 'f' => parts fixedParts (.ofInt n)
  | 'e' => parts exponentParts (.ofInt n)
  | 'g' => parts generalParts (.ofInt n)
  | _ =>
      let rounded := (Binary64.ofInt n).toInt?.getD n
      let (digits, rest) := parts fixedParts (.ofInt (100 * rounded))
      (digits, rest ++ ['%'])

def shapeFloat (n : Int) (layout : Layout) : Except Error (List Char) :=
  if !(Binary64.ofInt n).isFinite then .error .tooLargeForFloat
  else if maxPrecision < layout.precision.getD 0 then .error .precisionTooBig
  else
    let (digits, rest) := floatParts layout n
    let rest := if layout.type.isUpper then upper rest else rest
    shapeNumeral ⟨n < 0, [], digits, rest⟩ 3 layout

def shapeNumber (n : Int) (layout : Layout) : Except Error (List Char) :=
  if "bcdoxXn".toList.contains layout.type then shapeWhole n layout
  else if "eEfFgG%".toList.contains layout.type then shapeFloat n layout
  else .error (.unknownType layout.type Kind.whole.name)

/-- A value in a layout; the empty layout is the plain text of the value. -/
def Value.shape (value : Value) (layout : List Char) : Except Error (List Char) :=
  if layout.isEmpty then String.toList <$> value.display
  else match value with
    | .text content => do
        shapeText content.toList (← Layout.read Kind.text.name .left 's' layout)
    | .whole n => do shapeNumber n (← Layout.read Kind.whole.name .right 'd' layout)
    | .kind _ => .error .layoutOfKind

end Feuilleton.Template
