import Feuilleton.Text.Digit
import Feuilleton.Text.WordTable

/-!
# Word characters

A word consists of letters, digits and numerals of any script and of the underscore.
-/

namespace Feuilleton.Text

def inRanges (ranges : List (Nat × Nat)) (n : Nat) : Bool :=
  ranges.any fun range => range.1 ≤ n && n ≤ range.2

def isAsciiAlphanumeric (c : Char) : Bool :=
  c.isAlpha || ('0' ≤ c && c ≤ '9')

def isAlphanumeric (c : Char) : Bool :=
  if c.toNat < 128 then isAsciiAlphanumeric c else inRanges alphanumericRanges c.toNat

def isLetter (c : Char) : Bool :=
  isAlphanumeric c && !isDigit c && !inRanges numeralRanges c.toNat

/-- A digit of any form, also one that stands for no place of a numeral. -/
def isDigitForm (c : Char) : Bool :=
  isDigit c || inRanges digitFormRanges c.toNat

def isWord (c : Char) : Bool :=
  isAlphanumeric c || c == '_'

end Feuilleton.Text
