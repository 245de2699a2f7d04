import Feuilleton.Text.Digit

/-!
# Calendar dates

Dates of the proleptic Gregorian calendar. Day numbers count from 1 for the first of January of
the year 1.
-/

namespace Feuilleton

structure Date where
  year : Nat
  month : Nat
  day : Nat
  deriving DecidableEq, Repr

namespace Date

def isLeap (year : Nat) : Bool :=
  year % 4 == 0 && (year % 100 != 0 || year % 400 == 0)

def daysInMonth (year month : Nat) : Nat :=
  if month = 2 then if isLeap year then 29 else 28
  else if month = 4 ∨ month = 6 ∨ month = 9 ∨ month = 11 then 30
  else 31

def leastYear : Nat := 1

def greatestYear : Nat := 9999

def IsValid (date : Date) : Prop :=
  leastYear ≤ date.year ∧ date.year ≤ greatestYear ∧ 1 ≤ date.month ∧ date.month ≤ 12 ∧
    1 ≤ date.day ∧ date.day ≤ daysInMonth date.year date.month

instance (date : Date) : Decidable date.IsValid := by
  unfold IsValid; infer_instance

def ofFields? (year month day : Nat) : Option Date :=
  let date : Date := ⟨year, month, day⟩
  if date.IsValid then some date else none

theorem isValid_of_ofFields? {year month day : Nat} {date : Date}
    (h : ofFields? year month day = some date) : date.IsValid := by
  simp only [ofFields?] at h
  split at h
  · cases h
    assumption
  · cases h

/-! ## Day numbers -/

def daysBeforeYear (year : Nat) : Nat :=
  let y := year - 1
  365 * y + y / 4 - y / 100 + y / 400

def daysBeforeMonth (year : Nat) : Nat → Nat
  | 0 => 0
  | 1 => 0
  | month + 1 => daysBeforeMonth year month + daysInMonth year month

def dayNumber (date : Date) : Nat :=
  daysBeforeYear date.year + daysBeforeMonth date.year date.month + date.day

/-- Month and day of the day at `offset` in a year, from `month` on. -/
def monthAndDay (year : Nat) : Nat → Nat → Nat → Nat × Nat
  | 0, month, offset => (month, offset + 1)
  | left + 1, month, offset =>
      if offset < daysInMonth year month then (month, offset + 1)
      else monthAndDay year left (month + 1) (offset - daysInMonth year month)

def ofDayNumber (number : Nat) : Date :=
  let n := number - 1
  let centuries4 := n / 146097
  let n := n % 146097
  let centuries := min 3 (n / 36524)
  let n := n - 36524 * centuries
  let years4 := n / 1461
  let n := n % 1461
  let years := min 3 (n / 365)
  let n := n - 365 * years
  let year := 400 * centuries4 + 100 * centuries + 4 * years4 + years + 1
  let (month, day) := monthAndDay year 11 1 n
  ⟨year, month, day⟩

/-- The day of the week, Monday first, from 0. -/
def weekday (date : Date) : Nat :=
  (date.dayNumber + 6) % 7

/-! ## Writing -/

/-- Year, month and day; the year is written without leading zeros. -/
def text (date : Date) : String :=
  Text.natText date.year ++ "-" ++ Text.padded 2 date.month ++ "-" ++ Text.padded 2 date.day

end Date

end Feuilleton
