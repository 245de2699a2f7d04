import Feuilleton.Calendar.Date

/-!
# Moments

A moment is a date and the second of the day, both of the local clock.
-/

namespace Feuilleton

structure Moment where
  date : Date
  second : Nat := 0
  deriving DecidableEq, Repr

namespace Moment

def secondsPerDay : Nat := 86400

/-- Seconds since the beginning of day number 0. -/
def instant (moment : Moment) : Nat :=
  moment.date.dayNumber * secondsPerDay + moment.second

def readDigits? (width : Nat) (cs : List Char) : Option (Nat × List Char) :=
  let digits := cs.take width
  if digits.length = width ∧ digits.all (fun c => '0' ≤ c && c ≤ '9') then
    some (Text.numeralValue digits, cs.drop width)
  else none

/-- Reads `YYYY-MM-DD`, with a time of day `hh:mm:ss` behind any character if one follows.
Fractions of a second and an offset from universal time are left aside. -/
def ofText? (s : String) : Option Moment := do
  let (year, rest) ← readDigits? 4 s.toList
  let (month, rest) ← readDigits? 2 (rest.drop 1)
  let (day, rest) ← readDigits? 2 (rest.drop 1)
  let date ← Date.ofFields? year month day
  if rest.isEmpty then some ⟨date, 0⟩
  else
    let (hour, rest) ← readDigits? 2 (rest.drop 1)
    let (minute, rest) := match readDigits? 2 (rest.drop 1) with
      | some (minute, rest) => (minute, rest)
      | none => (0, [])
    let second := match readDigits? 2 (rest.drop 1) with
      | some (second, _) => if rest.head? = some ':' then second else 0
      | none => 0
    if hour < 24 ∧ minute < 60 ∧ second < 60 then some ⟨date, hour * 3600 + minute * 60 + second⟩
    else none

end Moment

end Feuilleton
