import Feuilleton.Calendar.DateReader
import Feuilleton.Calendar.Relative
import Feuilleton.Text.Lowercase

/-!
# Release dates

Release dates are given relative to now, such as "3 days ago" in the language of the site, or as
written dates. Both become calendar dates. A text that is neither, or that leads out of the
calendar, is kept as it is.
-/

namespace Feuilleton

/-- How written dates are read. Parts that a text leaves out come from the given day. A date that is
read is one of the calendar. -/
structure DateParser where
  read : String → Date → Except DateError Date
  isValid_of_read : ∀ {text now date}, read text now = .ok date → date.IsValid

namespace DateParser

/-- Short years lie around `pivot`. -/
def ofYear (pivot : Nat) : DateParser where
  read := DateReader.read pivot
  isValid_of_read := DateReader.isValid_of_read

def standard : DateParser := ofYear 2026

end DateParser

def relativeDate (raw : String) (now : Moment) (digits : List Char) (unit : TimeUnit) : String :=
  match Text.readNumeral digits with
  | .error _ => raw
  | .ok count =>
      match now.minus? count unit with
      | some date => date.text
      | none => raw

namespace DateParser

/-- The written date, if the text is one. -/
def written (dates : DateParser) (raw : String) (now : Moment) : Except DateError String :=
  match dates.read raw now.date with
  | .ok date => .ok date.text
  | .error .unreadable => .ok raw
  | .error .imprecise => .error .imprecise

/-- The date that a text means at a moment. A text without digits means none. -/
def resolve (dates : DateParser) (raw : String) (now : Moment) : Except DateError String :=
  match Text.firstDigits? raw.toList with
  | none => .ok raw
  | some digits =>
      match TimeUnit.inText? (Text.lower raw) with
      | some unit => .ok (relativeDate raw now digits unit)
      | none => dates.written raw now

end DateParser

/-- The date that a text means where written dates are read as they commonly are. -/
def normalizeDate (raw : String) (now : Moment) : Except DateError String :=
  DateParser.standard.resolve raw now

end Feuilleton
