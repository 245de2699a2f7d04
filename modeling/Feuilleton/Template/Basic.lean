import Feuilleton.Text.Digit
import Feuilleton.Text.Quoted

/-!
# Templates

A template is text with fields in braces. A field names a value, may go on to parts of it, may
turn it into quoted text, and may say how it is laid out. Doubled braces stand for single ones.
-/

namespace Feuilleton.Template

inductive Kind
  | text
  | whole
  deriving DecidableEq, Repr

def Kind.name : Kind → String
  | text => "str"
  | whole => "int"

/-- What a field can show. The kind of a value is a value as well. -/
inductive Value
  | text (content : String)
  | whole (number : Int)
  | kind (of : Kind)
  deriving DecidableEq, Repr

abbrev Values := List (String × Value)

namespace Value

def kindName : Value → String
  | text _ => Kind.text.name
  | whole _ => Kind.whole.name
  | kind _ => "type"

end Value

/-! ## Failures -/

inductive Error
  | singleOpening
  | singleClosing
  | unclosedField
  | openingInName
  | missingConversion
  | missingColon
  | unclosedLayout
  | unknownConversion (c : Char)
  | tooDeep
  | unknownName (name : String)
  | noPositional (index : Nat)
  | numberTooLong
  | tooManyDigits
  | strayAfterBracket
  | emptyPart
  | unclosedBracket
  | noAttribute (value : Value) (name : String)
  | noParts (value : Value)
  | textIndex
  | indexOutOfRange
  | invalidLayout (layout kind : String)
  | missingPrecision
  | bothSeparators
  | separatorWith (separator type : Char)
  | unknownType (type : Char) (kind : String)
  | layoutOfKind
  | spaceOnText
  | signOnText
  | negativeZeroOnText
  | alternateOnText
  | signFillOnText
  | precisionOnWhole
  | negativeZeroOnWhole
  | signOnCharacter
  | alternateOnCharacter
  | characterTooLarge
  | noCharacter
  | tooLargeForFloat
  | precisionTooBig
  | tooWide
  deriving DecidableEq, Repr

/-- A character as messages show it; unusual ones by their number. -/
def shownChar (c : Char) : String :=
  if 32 < c.toNat ∧ c.toNat < 128 then String.singleton c
  else "\\x" ++ Text.hexPadded 1 c.toNat

/-- As `shownChar`, where the last ASCII character is unusual too. -/
def shownConversion (c : Char) : String :=
  if c.toNat = 127 then "\\x7f" else shownChar c

namespace Error

def message : Error → String
  | singleOpening => "Single '\x7b' encountered in format string"
  | singleClosing => "Single '\x7d' encountered in format string"
  | unclosedField => "expected '\x7d' before end of string"
  | openingInName => "unexpected '\x7b' in field name"
  | missingConversion => "end of string while looking for conversion specifier"
  | missingColon => "expected ':' after conversion specifier"
  | unclosedLayout => "unmatched '\x7b' in format spec"
  | unknownConversion c => "Unknown conversion specifier " ++ shownConversion c
  | tooDeep => "Max string recursion exceeded"
  | unknownName name => Text.quoted name
  | noPositional index =>
      "Replacement index " ++ Text.natText index ++ " out of range for positional args tuple"
  | numberTooLong => "Too many decimal digits in format string"
  | tooManyDigits =>
      "Exceeds the limit (" ++ Text.natText Text.maxDigits ++
        " digits) for integer string conversion; use sys.set_int_max_str_digits() to increase " ++
        "the limit"
  | strayAfterBracket => "Only '.' or '[' may follow ']' in format field specifier"
  | emptyPart => "Empty attribute in format string"
  | unclosedBracket => "Missing ']' in format string"
  | noAttribute (.kind k) name => "type object '" ++ k.name ++ "' has no attribute '" ++ name ++ "'"
  | noAttribute value name => "'" ++ value.kindName ++ "' object has no attribute '" ++ name ++ "'"
  | noParts (.kind k) => "type '" ++ k.name ++ "' is not subscriptable"
  | noParts value => "'" ++ value.kindName ++ "' object is not subscriptable"
  | textIndex => "string indices must be integers, not 'str'"
  | indexOutOfRange => "string index out of range"
  | invalidLayout layout kind =>
      "Invalid format specifier '" ++ layout ++ "' for object of type '" ++ kind ++ "'"
  | missingPrecision => "Format specifier missing precision"
  | bothSeparators => "Cannot specify both ',' and '_'."
  | separatorWith separator type =>
      "Cannot specify '" ++ String.singleton separator ++ "' with '" ++ shownChar type ++ "'."
  | unknownType type kind =>
      "Unknown format code '" ++ shownChar type ++ "' for object of type '" ++ kind ++ "'"
  | layoutOfKind => "unsupported format string passed to type.__format__"
  | spaceOnText => "Space not allowed in string format specifier"
  | signOnText => "Sign not allowed in string format specifier"
  | negativeZeroOnText => "Negative zero coercion (z) not allowed in string format specifier"
  | alternateOnText => "Alternate form (#) not allowed in string format specifier"
  | signFillOnText => "'=' alignment not allowed in string format specifier"
  | precisionOnWhole => "Precision not allowed in integer format specifier"
  | negativeZeroOnWhole => "Negative zero coercion (z) not allowed in integer format specifier"
  | signOnCharacter => "Sign not allowed with integer format specifier 'c'"
  | alternateOnCharacter => "Alternate form (#) not allowed with integer format specifier 'c'"
  | characterTooLarge => "Python int too large to convert to C long"
  | noCharacter => "%c arg not in range(0x110000)"
  | tooLargeForFloat => "int too large to convert to float"
  | precisionTooBig => "precision too big"
  | tooWide => ""

end Error

/-! ## Plain texts of values -/

def writeWhole (n : Int) : Except Error String :=
  if Text.IsWritable n then .ok (Text.intText n) else .error .tooManyDigits

def Value.display : Value → Except Error String
  | text content => .ok content
  | whole number => writeWhole number
  | kind k => .ok ("<class '" ++ k.name ++ "'>")

end Feuilleton.Template
