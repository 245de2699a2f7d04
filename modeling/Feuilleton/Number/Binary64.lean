/-!
# Binary floating point

The values of the 64-bit binary format as exact numbers: a finite value is
`± significand * 2 ^ exponent` with `significand < 2 ^ 53`, where either `2 ^ 52 ≤ significand` or
`exponent = -1074`. Decimals are rounded to the nearest value and ties to the even significand,
all in integer arithmetic.
-/

namespace Feuilleton

inductive Binary64
  | nan
  | infinite (negative : Bool)
  | finite (negative : Bool) (significand : Nat) (exponent : Int)
deriving DecidableEq, Repr

namespace Binary64

def leastExponent : Int := -1074

def greatestExponent : Int := 971

/-- A significand has at most 53 bits. -/
def significandBound : Nat := 0x20000000000000

/-- The least significand with all its bits; only at the least exponent there are smaller ones. -/
def leastFullSignificand : Nat := 0x10000000000000

/-- The fraction `num / den / 2 ^ exponent` as numerator and denominator. -/
def scaled (num den : Nat) (exponent : Int) : Nat × Nat :=
  match exponent with
  | .ofNat e => (num, den * Nat.pow 2 e)
  | .negSucc e => (num * Nat.pow 2 (e + 1), den)

/-- The quotient rounded to the nearest integer, a half to the even neighbour. -/
def roundedQuotient (num den : Nat) : Nat :=
  let q := num / den
  let r := num % den
  if den < 2 * r ∨ (2 * r = den ∧ q % 2 = 1) then q + 1 else q

/-- The value nearest to `num / den`. -/
def ofRatio (negative : Bool) (num den : Nat) : Binary64 :=
  if num = 0 then finite negative 0 leastExponent
  else
    let guess : Int := (num.log2 : Int) - (den.log2 : Int) - 52
    let (n, d) := scaled num den guess
    let exponent := max leastExponent (if n / d < leastFullSignificand then guess - 1 else guess)
    let (n, d) := scaled num den exponent
    let q := roundedQuotient n d
    let (q, exponent) :=
      if q < significandBound then (q, exponent) else (leastFullSignificand, exponent + 1)
    if greatestExponent < exponent then infinite negative else finite negative q exponent

/-- The value nearest to `digits * 10 ^ power`. Far outside the range of the format the answer is
known without computing the power. -/
def ofDecimal (negative : Bool) (digits : Nat) (power : Int) : Binary64 :=
  let size : Int := (Nat.toDigits 10 digits).length + power
  if digits = 0 ∨ size < -330 then finite negative 0 leastExponent
  else if 320 < size then infinite negative
  else match power with
    | .ofNat p => ofRatio negative (digits * Nat.pow 10 p) 1
    | .negSucc p => ofRatio negative digits (Nat.pow 10 (p + 1))

def ofInt (i : Int) : Binary64 :=
  ofDecimal (i < 0) i.natAbs 0

def isZero : Binary64 → Bool
  | finite _ significand _ => significand == 0
  | _ => false

def isPositive : Binary64 → Bool
  | nan => false
  | infinite negative => !negative
  | finite negative significand _ => !negative && significand != 0

/-- The value as an integer, if it is finite and has no fraction. -/
def toInt? : Binary64 → Option Int
  | finite negative significand exponent =>
      let magnitude? : Option Nat := match exponent with
        | .ofNat e => some (significand * Nat.pow 2 e)
        | .negSucc e =>
            let unit := Nat.pow 2 (e + 1)
            if significand % unit = 0 then some (significand / unit) else none
      magnitude?.map fun m => if negative then -(m : Int) else m
  | _ => none

def isFinite : Binary64 → Bool
  | finite .. => true
  | _ => false

end Binary64

end Feuilleton
