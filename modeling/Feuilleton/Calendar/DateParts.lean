import Feuilleton.Calendar.Date
import Feuilleton.Calendar.DateWord

/-!
# Year, month and day in any order

The up to three numbers of a written date in the order in which they came, with the places of
those whose meaning is known. A number over one hundred, or written with more than two digits, is
a year; a named month is a month. The others are told apart by their size and order, month first.
-/

namespace Feuilleton

/-- Why a text is not read as a date. A number of hours or minutes with more than 28 digits before
the point is beyond the arithmetic on fractions; everything else is simply no date. -/
inductive DateError
  | unreadable
  | imprecise
  deriving DecidableEq, Repr

structure DateParts where
  numbers : List Nat := []
  yearAt : Option Nat := none
  monthAt : Option Nat := none
  centuryGiven : Bool := false
  deriving DecidableEq, Repr

namespace DateParts

def size (parts : DateParts) : Nat :=
  parts.numbers.length

def pushNumber (parts : DateParts) (n : Nat) : DateParts :=
  { parts with numbers := parts.numbers ++ [n] }

def pushYear (parts : DateParts) (n : Nat) : Except DateError DateParts :=
  if parts.yearAt.isSome then .error .unreadable
  else .ok { parts.pushNumber n with yearAt := some parts.size }

def pushMonth (parts : DateParts) (n : Nat) : Except DateError DateParts :=
  if parts.monthAt.isSome then .error .unreadable
  else .ok { parts.pushNumber n with monthAt := some parts.size }

/-- A number that was computed; over one hundred it is a year. -/
def pushValue (parts : DateParts) (n : Nat) (beyondHundred : Bool) : Except DateError DateParts :=
  if beyondHundred then DateParts.pushYear { parts with centuryGiven := true } n
  else .ok (parts.pushNumber n)

def readDigits (token : String) : Except DateError Nat :=
  let digits := token.toList
  if digits.isEmpty ∨ !digits.all Text.isDigit then .error .unreadable
  else match Text.readNumeral digits with
    | .ok n => .ok n
    | .error _ => .error .unreadable

/-- A number as it was written; with more than two digits it is a year. -/
def pushDigits (parts : DateParts) (token : String) : Except DateError DateParts := do
  let n ← readDigits token
  if 2 < token.length then DateParts.pushYear { parts with centuryGiven := true } n
  else .ok (parts.pushNumber n)

/-- A number in the place of a year. -/
def pushYearDigits (parts : DateParts) (token : String) : Except DateError DateParts := do
  let n ← readDigits token
  let centuryGiven := parts.centuryGiven || decide (2 < token.length)
  DateParts.pushYear { parts with centuryGiven } n

def numberAt (parts : DateParts) (i : Nat) : Nat :=
  (parts.numbers[i]?).getD 0

/-- The largest day that fits what is known of month and year. -/
def greatestDay (parts : DateParts) : Nat :=
  match parts.monthAt with
  | none => 31
  | some m =>
      let year := match parts.yearAt with
        | some y => parts.numberAt y
        | none => 2000
      Date.daysInMonth year (parts.numberAt m)

structure Resolved where
  year : Option Nat := none
  month : Option Nat := none
  day : Option Nat := none
  deriving DecidableEq, Repr

/-- The meaning of the numbers where every number has a known place, or two of three have. -/
def resolveByPlace (parts : DateParts) : Resolved :=
  let places := parts.yearAt.toList ++ parts.monthAt.toList
  let free := (List.range parts.size).filter (!places.contains ·)
  let spare : Option Nat := if parts.size = 3 then free.head? else none
  { year := parts.yearAt.map parts.numberAt
    month := parts.monthAt.map parts.numberAt
    day := spare.map parts.numberAt }

def resolveOne (n : Nat) : Resolved :=
  if 31 < n then { year := some n } else { day := some n }

def resolveTwo (a b : Nat) : Resolved :=
  if 31 < a then { year := some a, month := some b }
  else if 31 < b then { month := some a, year := some b }
  else { month := some a, day := some b }

def resolveThree (a b c : Nat) (monthAt : Option Nat) (yearFirst : Bool) : Resolved :=
  match monthAt with
  | some 0 =>
      if 31 < b then ⟨some b, some a, some c⟩ else ⟨some c, some a, some b⟩
  | some 1 =>
      if 31 < a then ⟨some a, some b, some c⟩ else ⟨some c, some b, some a⟩
  | some _ =>
      if 31 < b then ⟨some b, some c, some a⟩ else ⟨some a, some c, some b⟩
  | none =>
      if 31 < a ∨ yearFirst then ⟨some a, some b, some c⟩
      else if 12 < a then ⟨some c, some b, some a⟩
      else ⟨some c, some a, some b⟩

def resolve (parts : DateParts) : Except DateError Resolved :=
  let known := parts.yearAt.toList.length + parts.monthAt.toList.length
  if (parts.size = known ∧ 0 < known) ∨ (parts.size = 3 ∧ known = 2) then
    .ok parts.resolveByPlace
  else match parts.numbers, parts.monthAt with
    | [], _ => .ok {}
    | [a], _ => .ok (resolveOne a)
    | [a, b], some 0 => .ok { resolveOne b with month := some a }
    | [a, b], some _ => .ok { resolveOne a with month := some b }
    | [a, b], none => .ok (resolveTwo a b)
    | [a, b, c], monthAt => .ok (resolveThree a b c monthAt (parts.yearAt == some 0))
    | _, _ => .error .unreadable

end DateParts

end Feuilleton
