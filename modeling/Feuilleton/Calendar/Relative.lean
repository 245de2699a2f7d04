import Feuilleton.Calendar.Moment
import Feuilleton.Vocabulary.TimeUnit

/-!
# Going back in time

The date some units before a moment. Weeks and shorter units have a fixed length in seconds. Going
back by months and years keeps the day of the month where the month has such a day, and takes its
last day otherwise. There is no date before the year 1.
-/

namespace Feuilleton

namespace TimeUnit

/-- The length of a unit that always has the same one. -/
def seconds? : TimeUnit → Option Nat
  | second => some 1
  | minute => some 60
  | hour => some 3600
  | day => some 86400
  | week => some 604800
  | month => none
  | year => none

/-- The months in a unit of the calendar. -/
def months : TimeUnit → Nat
  | month => 1
  | year => 12
  | _ => 0

end TimeUnit

namespace Moment

def minusSeconds? (moment : Moment) (seconds : Nat) : Option Date :=
  if moment.instant < seconds + secondsPerDay then none
  else some (Date.ofDayNumber ((moment.instant - seconds) / secondsPerDay))

/-- Months counted from the beginning of the year 0. -/
def monthIndex (date : Date) : Nat :=
  12 * date.year + (date.month - 1)

def minusMonths? (moment : Moment) (months : Nat) : Option Date :=
  let index := monthIndex moment.date
  if index < months + 12 then none
  else
    let year := (index - months) / 12
    let month := (index - months) % 12 + 1
    some ⟨year, month, min moment.date.day (Date.daysInMonth year month)⟩

def minus? (moment : Moment) (count : Nat) (unit : TimeUnit) : Option Date :=
  match unit.seconds? with
  | some seconds => moment.minusSeconds? (count * seconds)
  | none => moment.minusMonths? (count * unit.months)

end Moment

end Feuilleton
