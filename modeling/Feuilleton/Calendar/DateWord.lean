import Feuilleton.Text.Lowercase

/-!
# Words in dates

The English words and signs that have a meaning in a written date, in any letter case.
-/

namespace Feuilleton.DateWord

/-- Words and signs that may stand anywhere without saying anything. -/
def fillers : List String :=
  [" ", ".", ",", ";", "-", "/", "'", "at", "on", "and", "ad", "m", "t", "of", "st", "nd", "rd",
    "th"]

def weekdays : List (String × Nat) := [
  ("mon", 0), ("monday", 0), ("tue", 1), ("tuesday", 1), ("wed", 2), ("wednesday", 2),
  ("thu", 3), ("thursday", 3), ("fri", 4), ("friday", 4), ("sat", 5), ("saturday", 5),
  ("sun", 6), ("sunday", 6)]

def months : List (String × Nat) := [
  ("jan", 1), ("january", 1), ("feb", 2), ("february", 2), ("mar", 3), ("march", 3),
  ("apr", 4), ("april", 4), ("may", 5), ("jun", 6), ("june", 6), ("jul", 7), ("july", 7),
  ("aug", 8), ("august", 8), ("sep", 9), ("sept", 9), ("september", 9), ("oct", 10),
  ("october", 10), ("nov", 11), ("november", 11), ("dec", 12), ("december", 12)]

inductive ClockUnit
  | hour
  | minute
  | second
  deriving DecidableEq, Repr

/-- The next finer unit; nothing is finer than a second. -/
def ClockUnit.finer? : ClockUnit → Option ClockUnit
  | hour => some minute
  | minute => some second
  | second => none

def clockUnits : List (String × ClockUnit) := [
  ("h", .hour), ("hour", .hour), ("hours", .hour),
  ("m", .minute), ("minute", .minute), ("minutes", .minute),
  ("s", .second), ("second", .second), ("seconds", .second)]

inductive HalfDay
  | morning
  | afternoon
  deriving DecidableEq, Repr

def halfDays : List (String × HalfDay) :=
  [("am", .morning), ("a", .morning), ("pm", .afternoon), ("p", .afternoon)]

/-- Words for what is no finite number; none of them may stand where a token is read. -/
def nonNumbers : List String := ["nan", "inf", "infinity"]

def universalZones : List String := ["UTC", "GMT", "Z", "z"]

def isFiller (token : String) : Bool :=
  fillers.contains (Text.lower token)

def isNonNumber (token : String) : Bool :=
  nonNumbers.contains (Text.lower token)

def weekday? (token : String) : Option Nat :=
  weekdays.lookup (Text.lower token)

def month? (token : String) : Option Nat :=
  months.lookup (Text.lower token)

def clockUnit? (token : String) : Option ClockUnit :=
  clockUnits.lookup (Text.lower token)

def halfDay? (token : String) : Option HalfDay :=
  halfDays.lookup (Text.lower token)

def isUniversalZone (token : String) : Bool :=
  (universalZones.map Text.lower).contains (Text.lower token)

/-- Up to five capital letters, or a name of universal time. -/
def looksLikeZone (token : String) : Bool :=
  token.length ≤ 5 && (token.toList.all (fun c => 'A' ≤ c && c ≤ 'Z') ||
    universalZones.contains token)

end Feuilleton.DateWord
