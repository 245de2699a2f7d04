import Feuilleton.Number.Binary64

/-!
# Shortest decimal text

A finite value is written with the fewest significant digits that read back as the same value, and
among those with the digits nearest to it. Values from `10 ^ -4` up to below `10 ^ 16` are written
positionally with at least one digit after the point, all others with an exponent of at least two
digits.
-/

namespace Feuilleton.Binary64

/-- A nonzero magnitude between the borders of the interval that rounds to it, over one common
denominator. -/
structure Interval where
  value : Nat
  low : Nat
  high : Nat
  denominator : Nat
  closed : Bool
deriving DecidableEq, Repr

def interval (significand : Nat) (exponent : Int) : Interval :=
  let narrow := significand = leastFullSignificand ∧ leastExponent < exponent
  let value := 4 * significand
  let low := if narrow then value - 1 else value - 2
  let high := value + 2
  let closed := significand % 2 = 0
  match exponent with
  | .ofNat e =>
      let unit := Nat.pow 2 e
      ⟨value * unit, low * unit, high * unit, 4, closed⟩
  | .negSucc e => ⟨value, low, high, 4 * Nat.pow 2 (e + 1), closed⟩

def Interval.holds (i : Interval) (n d : Nat) : Bool :=
  if i.closed then i.low * d ≤ n * i.denominator && n * i.denominator ≤ i.high * d
  else i.low * d < n * i.denominator && n * i.denominator < i.high * d

/-- `digits * 10 ^ power` as a fraction. -/
def decimalRatio (digits : Nat) (power : Int) : Nat × Nat :=
  match power with
  | .ofNat p => (digits * Nat.pow 10 p, 1)
  | .negSucc p => (digits, Nat.pow 10 (p + 1))

/-- The point of the grid of step `10 ^ power` that lies in the interval, the nearer of two. -/
def Interval.onGrid? (i : Interval) (power : Int) : Option Nat :=
  let (num, den) : Nat × Nat := match power with
    | .ofNat p => (i.value, i.denominator * Nat.pow 10 p)
    | .negSucc p => (i.value * Nat.pow 10 (p + 1), i.denominator)
  let below := num / den
  let inside := fun digits =>
    let (n, d) := decimalRatio digits power
    i.holds n d
  match decide (0 < below) && inside below, inside (below + 1) with
  | true, true => some (if 2 * (num % den) ≤ den then below else below + 1)
  | true, false => some below
  | false, true => some (below + 1)
  | false, false => none

/-- The number of digits before the decimal point; not positive below one tenth. -/
def Interval.magnitude (i : Interval) : Int :=
  if i.denominator ≤ i.value then (Nat.toDigits 10 (i.value / i.denominator)).length
  else
    let inverse := i.denominator / i.value
    let digits : Int := (Nat.toDigits 10 inverse).length
    let p := (digits - 1).toNat
    if i.value * Nat.pow 10 p = i.denominator then 1 - digits + 1 else 1 - digits

/-- Digits and power of ten of the shortest decimal, trying grids of `count`, `count + 1`, ...
digits. -/
def Interval.shortest (i : Interval) : Nat → Nat → Nat × Int
  | 0, count => (0, count)
  | tries + 1, count =>
      let power := i.magnitude - count
      match i.onGrid? power with
      | some digits => (digits, power)
      | none => i.shortest tries (count + 1)

def shortestDecimal (significand : Nat) (exponent : Int) : Nat × Int :=
  (interval significand exponent).shortest 18 1

def stripZeros (digits : List Char) : List Char :=
  (digits.reverse.dropWhile (· == '0')).reverse

def magnitudeText (significand : Nat) (exponent : Int) : List Char :=
  if significand = 0 then ['0', '.', '0']
  else
    let (value, power) := shortestDecimal significand exponent
    let all := Nat.toDigits 10 value
    let point : Int := all.length + power
    let digits := stripZeros all
    if -4 < point ∧ point ≤ 16 then
      if point ≤ 0 then '0' :: '.' :: (List.replicate (-point).toNat '0' ++ digits)
      else
        let whole := digits.take point.toNat
        let filled := whole ++ List.replicate (point.toNat - whole.length) '0'
        let fraction := digits.drop point.toNat
        filled ++ '.' :: (if fraction.isEmpty then ['0'] else fraction)
    else
      let scale := point - 1
      let places := Nat.toDigits 10 scale.natAbs
      let places := if places.length < 2 then '0' :: places else places
      let mark := if scale < 0 then '-' else '+'
      let head := digits.take 1
      let fraction := digits.drop 1
      head ++ (if fraction.isEmpty then [] else '.' :: fraction) ++ 'e' :: mark :: places

/-- Texts of the values that are no numbers. -/
structure SpecialNames where
  nan : String
  infinity : String
deriving DecidableEq, Repr

def text (names : SpecialNames) : Binary64 → String
  | nan => names.nan
  | infinite negative => (if negative then "-" else "") ++ names.infinity
  | finite negative significand exponent =>
      String.ofList ((if negative then ['-'] else []) ++ magnitudeText significand exponent)

def plainNames : SpecialNames := ⟨"nan", "inf"⟩

end Feuilleton.Binary64
