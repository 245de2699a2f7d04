import Feuilleton.Calendar.DateParts

/-!
# Quantities in dates

A number of a date with an optional fraction. Fractions are kept to 28 significant digits, a half
goes to the even neighbour, and a number with more digits before its point has no fraction at all.
-/

namespace Feuilleton

structure Quantity where
  whole : Nat
  fraction : List Char := []
  deriving DecidableEq, Repr

namespace Quantity

def precision : Nat := 28

def ofToken? (token : String) : Option Quantity :=
  let whole := token.toList.takeWhile Text.isDigit
  if whole.isEmpty then none
  else match token.toList.dropWhile Text.isDigit with
    | [] => some ⟨Text.numeralValue whole, []⟩
    | '.' :: fraction =>
        if !fraction.isEmpty && fraction.all Text.isDigit then
          some ⟨Text.numeralValue whole, fraction⟩
        else none
    | _ => none

/-- `n / 10 ^ places` with at most `precision` significant digits. -/
def rounded (n places : Nat) : Nat × Nat :=
  let excess := (Nat.toDigits 10 n).length - precision
  if excess = 0 then (n, places)
  else
    let unit := Nat.pow 10 excess
    let q := n / unit
    let r := n % unit
    (if unit < 2 * r ∨ (2 * r = unit ∧ q % 2 = 1) then q + 1 else q, places - excess)

/-- The fraction in sixtieths, if there is a fraction other than zero. -/
def sixtieths (quantity : Quantity) : Except DateError (Option Nat) :=
  if precision < (Nat.toDigits 10 quantity.whole).length then .error .imprecise
  else
    let n := Text.numeralValue quantity.fraction
    if n = 0 then .ok none
    else
      let (n, places) := rounded n quantity.fraction.length
      let (n, places) := rounded (60 * n) places
      .ok (some (n / Nat.pow 10 places))

def exceedsHundred (quantity : Quantity) : Bool :=
  100 < quantity.whole || (quantity.whole == 100 && Text.numeralValue quantity.fraction != 0)

/-- A number from 1 to `greatest`, the fraction counted in. -/
def fitsDay (quantity : Quantity) (greatest : Nat) : Bool :=
  1 ≤ quantity.whole && (quantity.whole < greatest ||
    (quantity.whole == greatest && Text.numeralValue quantity.fraction == 0))

end Quantity

end Feuilleton
