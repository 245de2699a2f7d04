import Feuilleton.Calendar.DateQuantity
import Feuilleton.Calendar.DateToken
import Feuilleton.Calendar.Moment

/-!
# Reading written dates

A date may be written with names or numbers, its parts in many orders and with a time of day and a
time zone around it. The tokens are read from left to right; every token must have a meaning.
Parts that are missing come from a given day, and the century of a short year from a given year.
-/

namespace Feuilleton.DateReader

open DateWord

structure Fields where
  parts : DateParts := {}
  hour : Option Nat := none
  minute : Option Nat := none
  second : Option Nat := none
  weekday : Option Nat := none
  zone : Option String := none
  offset : Option Int := none
  deriving DecidableEq, Repr

/-- Short years lie within fifty years of `pivot`. -/
def expandYear (pivot year : Nat) (centuryGiven : Bool) : Nat :=
  if 100 ≤ year ∨ centuryGiven then year
  else
    let year := year + pivot / 100 * 100
    if pivot + 50 ≤ year then year - 100
    else if year + 50 < pivot then year + 100
    else year

abbrev Tokens := Array String

abbrev Reading := Except DateError (Nat × Fields)

def unreadable {α : Type} : Except DateError α :=
  .error .unreadable

def tokenAt (tokens : Tokens) (i : Nat) : Except DateError String :=
  match tokens[i]? with
  | some token => .ok token
  | none => unreadable

def isToken (tokens : Tokens) (i : Nat) (token : String) : Bool :=
  tokens[i]? == some token

def holdsAt (tokens : Tokens) (i : Nat) (p : String → Bool) : Bool :=
  (tokens[i]?).any p

def slice (token : String) (start stop : Nat) : String :=
  String.ofList ((token.toList.take stop).drop start)

def dropChars (token : String) (count : Nat) : String :=
  String.ofList (token.toList.drop count)

/-! ## Time of day -/

def toHalfDay (hour : Nat) : HalfDay → Nat
  | .afternoon => if hour < 12 then hour + 12 else hour
  | .morning => if hour = 12 then 0 else hour

/-- Whole seconds; a fraction has to be readable and is dropped. -/
def readSeconds (token : String) : Except DateError Nat :=
  match token.toList.takeWhile (· != '.'), token.toList.dropWhile (· != '.') with
  | whole, [] => DateParts.readDigits (String.ofList whole)
  | whole, _ :: fraction => do
      let second ← DateParts.readDigits (String.ofList whole)
      let _ ← DateParts.readDigits (String.ofList ((fraction ++ ['0']).take 6))
      .ok second

/-- Where the name of the unit of the number at `i` stands: behind it, or else before it. -/
def unitIndex? (tokens : Tokens) (i : Nat) : Option Nat :=
  let isUnit := fun token => (clockUnit? token).isSome
  if holdsAt tokens (i + 1) isUnit then some (i + 1)
  else if isToken tokens (i + 1) " " && holdsAt tokens (i + 2) isUnit then some (i + 2)
  else if 0 < i && holdsAt tokens (i - 1) isUnit then some (i - 1)
  else if 1 < i && i + 1 == tokens.size && isToken tokens (i - 1) " " &&
      holdsAt tokens (i - 2) isUnit then some (i - 2)
  else none

/-- The unit of the number at `i` by the name at `unitAt`; a name before the number gives it the
next finer unit. -/
def unitOf (tokens : Tokens) (i unitAt : Nat) : Option ClockUnit :=
  let unit? := (tokens[unitAt]?).bind clockUnit?
  if i < unitAt then unit? else unit?.bind ClockUnit.finer?

def assignUnit (fields : Fields) (token : String) (quantity : Quantity) :
    Option ClockUnit → Except DateError Fields
  | none => .ok fields
  | some .hour => do
      let minute ← quantity.sixtieths
      .ok { fields with hour := some quantity.whole, minute := minute <|> fields.minute }
  | some .minute => do
      let second ← quantity.sixtieths
      .ok { fields with minute := some quantity.whole, second }
  | some .second => do
      let second ← readSeconds token
      .ok { fields with second := some second }

/-! ## Numbers -/

/-- Two or four digits behind a complete date: hours, or hours and minutes. -/
def readCompactTime (fields : Fields) (token : String) : Except DateError Fields := do
  let hour ← DateParts.readDigits (slice token 0 2)
  if token.length = 4 then
    let minute ← DateParts.readDigits (dropChars token 2)
    .ok { fields with hour := some hour, minute := some minute }
  else .ok { fields with hour := some hour }

/-- Six digits: a date where none has begun, otherwise a time. -/
def readSixDigits (fields : Fields) (token : String) : Except DateError Fields := do
  if fields.parts.numbers.isEmpty ∧ !token.toList.contains '.' then
    let parts ← fields.parts.pushDigits (slice token 0 2)
    let parts ← parts.pushDigits (slice token 2 4)
    let parts ← parts.pushDigits (dropChars token 4)
    .ok { fields with parts }
  else
    let hour ← DateParts.readDigits (slice token 0 2)
    let minute ← DateParts.readDigits (slice token 2 4)
    let second ← readSeconds (dropChars token 4)
    .ok { fields with hour := some hour, minute := some minute, second := some second }

/-- Eight digits of a date, with two or three pairs of a time behind them. -/
def readLongDigits (fields : Fields) (token : String) : Except DateError Fields := do
  let parts ← fields.parts.pushYearDigits (slice token 0 4)
  let parts ← parts.pushDigits (slice token 4 6)
  let parts ← parts.pushDigits (slice token 6 8)
  let fields := { fields with parts }
  if token.length = 8 then .ok fields
  else
    let hour ← DateParts.readDigits (slice token 8 10)
    let minute ← DateParts.readDigits (slice token 10 12)
    let fields := { fields with hour := some hour, minute := some minute }
    if token.length = 12 then .ok fields
    else
      let second ← DateParts.readDigits (dropChars token 12)
      .ok { fields with second := some second }

/-- Hours, a colon, minutes and perhaps a colon and seconds. -/
def readClock (tokens : Tokens) (i : Nat) (fields : Fields) (quantity : Quantity) : Reading := do
  let minutes ← tokenAt tokens (i + 2)
  match Quantity.ofToken? minutes with
  | none => unreadable
  | some minutes =>
      let second ← minutes.sixtieths
      let fields := { fields with
        hour := some quantity.whole, minute := some minutes.whole, second }
      if isToken tokens (i + 3) ":" && (tokens[i + 4]?).isSome then
        let second ← readSeconds (← tokenAt tokens (i + 4))
        .ok (i + 5, { fields with second := some second })
      else .ok (i + 3, fields)

def pushMonthOr (parts : DateParts) (token : String)
    (otherwise : Except DateError DateParts) : Except DateError DateParts :=
  match month? token with
  | some month => parts.pushMonth month
  | none => otherwise

/-- Up to three parts of a date with one sign between them. -/
def readSeparated (tokens : Tokens) (i : Nat) (fields : Fields) (token sign : String) :
    Reading := do
  let parts ← fields.parts.pushDigits token
  match tokens[i + 2]? with
  | none => .ok (i + 2, { fields with parts })
  | some second =>
      if isFiller second then .ok (i + 2, { fields with parts })
      else
        let parts ←
          if second.toList.all Text.isDigit then parts.pushDigits second
          else pushMonthOr parts second unreadable
        if isToken tokens (i + 3) sign then
          let third ← tokenAt tokens (i + 4)
          let parts ← pushMonthOr parts third (parts.pushDigits third)
          .ok (i + 5, { fields with parts })
        else .ok (i + 3, { fields with parts })

def pushQuantity (fields : Fields) (quantity : Quantity) : Except DateError Fields := do
  let parts ← fields.parts.pushValue quantity.whole quantity.exceedsHundred
  .ok { fields with parts }

/-- What the number at `i` means, by its length and by the tokens around it. -/
def readNumber (tokens : Tokens) (i : Nat) (fields : Fields) (token : String)
    (quantity : Quantity) : Reading := do
  let next? := tokens[i + 1]?
  let size := token.length
  if fields.parts.size = 3 ∧ (size = 2 ∨ size = 4) ∧ fields.hour.isNone ∧
      !next?.any (fun next => next == ":" || (clockUnit? next).isSome) then
    .ok (i + 1, ← readCompactTime fields token)
  else if size = 6 ∨ (6 < size ∧ (token.toList.takeWhile (· != '.')).length = 6) then
    .ok (i + 1, ← readSixDigits fields token)
  else if size = 8 ∨ size = 12 ∨ size = 14 then
    .ok (i + 1, ← readLongDigits fields token)
  else match unitIndex? tokens i with
  | some unitAt =>
      let fields ← assignUnit fields token quantity (unitOf tokens i unitAt)
      .ok (max i unitAt + 1, fields)
  | none =>
      match next? with
      | none => .ok (i + 2, ← pushQuantity fields quantity)
      | some next =>
          if next = ":" ∧ (tokens[i + 2]?).isSome then readClock tokens i fields quantity
          else if next = "-" ∨ next = "/" ∨ next = "." then
            readSeparated tokens i fields token next
          else if isFiller next then
            match (tokens[i + 2]?).bind halfDay? with
            | some half =>
                .ok (i + 3, { fields with hour := some (toHalfDay quantity.whole half) })
            | none => .ok (i + 2, ← pushQuantity fields quantity)
          else match halfDay? next with
            | some half =>
                if quantity.whole < 24 then
                  .ok (i + 2, { fields with hour := some (toHalfDay quantity.whole half) })
                else if quantity.fitsDay fields.parts.greatestDay then
                  .ok (i + 1, ← pushQuantity fields quantity)
                else unreadable
            | none =>
                if quantity.fitsDay fields.parts.greatestDay then
                  .ok (i + 1, ← pushQuantity fields quantity)
                else unreadable

/-! ## Words and signs -/

def isAllDigits (token : String) : Bool :=
  !token.isEmpty && token.toList.all Text.isDigitForm

/-- A named month, with day and year behind it where signs or "of" bind them to it. -/
def readMonth (pivot : Nat) (tokens : Tokens) (i : Nat) (fields : Fields) (month : Nat) :
    Reading := do
  let parts ← fields.parts.pushMonth month
  match tokens[i + 1]? with
  | none => .ok (i + 1, { fields with parts })
  | some next =>
      if next = "-" ∨ next = "/" then
        let parts ← parts.pushDigits (← tokenAt tokens (i + 2))
        if isToken tokens (i + 3) next then
          let parts ← parts.pushDigits (← tokenAt tokens (i + 4))
          .ok (i + 5, { fields with parts })
        else .ok (i + 3, { fields with parts })
      else if (tokens[i + 4]?).isSome && next == " " && isToken tokens (i + 3) " " &&
          holdsAt tokens (i + 2) (Text.lower · == "of") then
        let year ← tokenAt tokens (i + 4)
        if isAllDigits year then
          let n ← DateParts.readDigits year
          let year := expandYear pivot n false
          let parts ← DateParts.pushYear { parts with centuryGiven := true } year
          .ok (i + 5, { fields with parts })
        else .ok (i + 5, { fields with parts })
      else .ok (i + 1, { fields with parts })

def readHalfDay (i : Nat) (fields : Fields) (half : HalfDay) : Reading :=
  match fields.hour with
  | some hour =>
      if hour ≤ 12 then .ok (i + 1, { fields with hour := some (toHalfDay hour half) })
      else unreadable
  | none => unreadable

def mayBeZone (fields : Fields) (token : String) (offset : Option Int) : Bool :=
  fields.hour.isSome && fields.zone.isNone && offset.isNone && looksLikeZone token

def readZone (tokens : Tokens) (i : Nat) (fields : Fields) (token : String) : Reading :=
  if isToken tokens (i + 1) "+" || isToken tokens (i + 1) "-" then
    .ok (i + 1, { fields with
      zone := if isUniversalZone token then none else some token, offset := none })
  else
    .ok (i + 1, { fields with
      zone := some token, offset := if universalZones.contains token then some 0 else none })

/-- An offset from universal time behind a time of day. -/
def readOffset (tokens : Tokens) (i : Nat) (fields : Fields) (sign : Int) : Reading := do
  let digits ← tokenAt tokens (i + 1)
  let (hours, minutes, skipped) ←
    if digits.length = 4 then
      let hours ← DateParts.readDigits (slice digits 0 2)
      let minutes ← DateParts.readDigits (dropChars digits 2)
      pure (hours, minutes, 0)
    else if isToken tokens (i + 2) ":" then
      let hours ← DateParts.readDigits digits
      let minutes ← DateParts.readDigits (← tokenAt tokens (i + 3))
      pure (hours, minutes, 2)
    else if digits.length ≤ 2 then
      let hours ← DateParts.readDigits digits
      pure (hours, 0, 0)
    else unreadable
  let i := i + skipped
  let fields := { fields with offset := some (sign * (hours * 3600 + minutes * 60 : Nat)) }
  let zone? := tokens[i + 4]?
  if (tokens[i + 5]?).isSome && holdsAt tokens (i + 2) isFiller && isToken tokens (i + 3) "(" &&
      isToken tokens (i + 5) ")" &&
      zone?.any (fun zone => 3 ≤ zone.length && mayBeZone fields zone none) then
    .ok (i + 6, { fields with zone := zone? })
  else .ok (i + 2, fields)

def readToken (pivot : Nat) (tokens : Tokens) (i : Nat) (fields : Fields) (token : String) :
    Reading :=
  match Quantity.ofToken? token with
  | some quantity => readNumber tokens i fields token quantity
  | none =>
      if isNonNumber token then unreadable
      else match weekday? token with
      | some weekday => .ok (i + 1, { fields with weekday := some weekday })
      | none =>
          match month? token with
          | some month => readMonth pivot tokens i fields month
          | none =>
              match halfDay? token with
              | some half => readHalfDay i fields half
              | none =>
                  if mayBeZone fields token fields.offset then readZone tokens i fields token
                  else if fields.hour.isSome ∧ token = "+" then readOffset tokens i fields 1
                  else if fields.hour.isSome ∧ token = "-" then readOffset tokens i fields (-1)
                  else if isFiller token then .ok (i + 1, fields)
                  else unreadable

/-- Reads the tokens from `i` on; every step takes at least one. -/
def readFrom (pivot : Nat) (tokens : Tokens) : Nat → Nat → Fields → Except DateError Fields
  | 0, _, fields => .ok fields
  | steps + 1, i, fields =>
      match tokens[i]? with
      | none => .ok fields
      | some token =>
          match readToken pivot tokens i fields token with
          | .ok (next, fields) => readFrom pivot tokens steps next fields
          | .error e => .error e

/-! ## The date -/

def isAbsent (fields : Fields) (resolved : DateParts.Resolved) : Bool :=
  resolved.year.isNone && resolved.month.isNone && resolved.day.isNone &&
    fields.weekday.isNone && fields.hour.isNone && fields.minute.isNone &&
    fields.second.isNone && fields.zone.isNone && fields.offset.isNone

def clockFits (fields : Fields) : Bool :=
  fields.hour.all (· < 24) && fields.minute.all (· < 60) && fields.second.all (· < 60)

/-- Offsets are counted in whole days of at most nine digits. None is counted where the zone is
universal time. -/
def offsetFits (fields : Fields) : Bool :=
  fields.zone.any isUniversalZone ||
    fields.offset.all fun offset => offset.natAbs / 86400 ≤ 999999999

/-- The first day from `date` on that has the weekday. -/
def onWeekday? (date : Date) (weekday : Nat) : Option Date :=
  let later := Date.ofDayNumber (date.dayNumber + (7 + weekday - date.weekday) % 7)
  Date.ofFields? later.year later.month later.day

def dateOf? (pivot : Nat) (fields : Fields) (resolved : DateParts.Resolved) (now : Date) :
    Option Date := do
  let year := match resolved.year with
    | some year => expandYear pivot year fields.parts.centuryGiven
    | none => now.year
  let month := resolved.month.getD now.month
  let day := resolved.day.getD (min now.day (Date.daysInMonth year month))
  let date ← Date.ofFields? year month day
  match fields.weekday, resolved.day with
  | some weekday, none => onWeekday? date weekday
  | _, _ => some date

/-- Parts that the text leaves out come from `now`. A day that comes from there is lowered to the
last one of its month. -/
def read (pivot : Nat) (text : String) (now : Date) : Except DateError Date := do
  let tokens := (DateToken.tokens text).toArray
  let fields ← readFrom pivot tokens tokens.size 0 {}
  let resolved ← fields.parts.resolve
  if isAbsent fields resolved || !clockFits fields || !offsetFits fields then unreadable
  else match dateOf? pivot fields resolved now with
    | some date => .ok date
    | none => unreadable

/-! ## Dates of the calendar -/

theorem isValid_of_dateOf? {pivot : Nat} {fields : Fields} {resolved : DateParts.Resolved}
    {now date : Date} (h : dateOf? pivot fields resolved now = some date) : date.IsValid := by
  obtain ⟨read, hread, h⟩ := Option.bind_eq_some_iff.1 h
  split at h
  · exact Date.isValid_of_ofFields? h
  · cases h
    exact Date.isValid_of_ofFields? hread

theorem isValid_of_read {pivot : Nat} {text : String} {now date : Date}
    (h : read pivot text now = .ok date) : date.IsValid := by
  simp only [read, bind, Except.bind] at h
  split at h
  · cases h
  · split at h
    · cases h
    · split at h
      · cases h
      · split at h
        · rename_i hdate
          cases h
          exact isValid_of_dateOf? hdate
        · cases h

end Feuilleton.DateReader
