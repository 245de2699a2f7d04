import Feuilleton.Number.Binary64
import Feuilleton.Text.Blank
import Feuilleton.Text.Digit
import Feuilleton.Text.Search

/-!
# Numbers and names in the texts of a page
-/

namespace Feuilleton

/-- The first number of a text, with a fraction behind a point or a comma. -/
def readRating? (text : String) : Option Binary64 :=
  match text.toList.dropWhile (!Text.isDigit ·) with
  | [] => none
  | rest =>
      let whole := rest.takeWhile Text.isDigit
      let fraction := match rest.dropWhile Text.isDigit with
        | c :: rest => if c = '.' ∨ c = ',' then rest.takeWhile Text.isDigit else []
        | [] => []
      some (.ofDecimal false (Text.numeralValue (whole ++ fraction)) (-(fraction.length : Int)))

/-- The number in the digits at the end of a text, blanks behind them left aside. -/
def trailingNumber? (text : String) : Except Text.NumeralTooLong (Option Nat) :=
  match Text.lastDigits (Text.dropEndWhile Text.isBlank text.toList) with
  | [] => .ok none
  | digits => (Text.readNumeral digits).map some

/-- A chapter title without the name of the work in front of it. What remains is the rest of the
line. A title with nothing behind the name is kept whole. -/
def stripWorkName (text workName : String) : String :=
  if !workName.isEmpty && Text.startsWith workName text then
    match (text.toList.drop workName.toList.length).dropWhile Text.isBlank with
    | [] => Text.trim text
    | rest => String.ofList (Text.trimList (rest.takeWhile (· != '\n')))
  else Text.trim text

end Feuilleton
