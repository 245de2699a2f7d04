import Feuilleton.Calendar.Release
import Feuilleton.Proofs.Calendar.DayNumber
import Feuilleton.Proofs.Text.Digits

/-!
# Going back by units of time

A text that names a number of units of time is the date that lies so many units before now. Units of
a fixed length lead to the day that holds the instant. Months and years lead to the month that lies
so many before, and to its last day where it is too short. Nothing else in the text counts, and
where there is no such date, the text is kept.
-/

namespace Feuilleton

variable {date : Date} {now : Moment} {count : Nat} {unit : TimeUnit} {raw : String}
  {digits : List Char}

/-! ## Dates before a moment -/

def Moment.IsValid (moment : Moment) : Prop :=
  moment.date.IsValid ∧ moment.second < Moment.secondsPerDay

/-- The day begins at the instant or before it, and does not end before it. -/
def Date.Holds (date : Date) (instant : Int) : Prop :=
  date.dayNumber * Moment.secondsPerDay ≤ instant ∧
    instant < (date.dayNumber + 1) * Moment.secondsPerDay

/-- The date lies this number of units before the moment. -/
inductive Date.IsBack (date : Date) (now : Moment) (count : Nat) (unit : TimeUnit) : Prop
  | clock {seconds : Nat} (hunit : unit.seconds? = some seconds)
      (holds : date.Holds (now.instant - count * seconds))
  | calendar (hunit : unit.seconds? = none)
      (hmonth : (12 * date.year + date.month : Int) =
        12 * now.date.year + now.date.month - count * unit.months)
      (hday : date.day = min now.date.day (Date.daysInMonth date.year date.month))

namespace Moment

theorem instant_lt (hnow : now.IsValid) :
    now.instant < (now.date.dayNumber + 1) * secondsPerDay := by
  have hsecond := hnow.2
  rw [instant, Nat.add_mul, Nat.one_mul]
  omega

theorem minusSeconds?_eq_some_iff {seconds : Nat} (hnow : now.IsValid) :
    now.minusSeconds? seconds = some date ↔
      date.IsValid ∧ date.Holds (now.instant - seconds) := by
  have hlast := instant_lt hnow
  unfold minusSeconds? Date.Holds
  split
  · rename_i hbeyond
    simp only [reduceCtorEq, false_iff]
    rintro ⟨hvalid, hbegins, -⟩
    have hfirst := Date.one_le_dayNumber hvalid
    simp only [secondsPerDay] at hbeyond hbegins
    omega
  · rename_i hwithin
    simp only [secondsPerDay, Option.some.injEq] at hlast hwithin ⊢
    constructor
    · rintro rfl
      have hfirst : 1 ≤ (now.instant - seconds) / 86400 := by omega
      have hle : (now.instant - seconds) / 86400 ≤ now.date.dayNumber := by omega
      refine ⟨Date.isValid_ofDayNumber_of_le hfirst hnow.1 hle, ?_⟩
      rw [Date.dayNumber_ofDayNumber hfirst]
      omega
    · rintro ⟨hvalid, hbegins, hends⟩
      have hday : (now.instant - seconds) / 86400 = date.dayNumber := by omega
      rw [hday, Date.ofDayNumber_dayNumber hvalid]

theorem minusMonths?_eq_some_iff {months : Nat} (hnow : now.IsValid) :
    now.minusMonths? months = some date ↔ date.IsValid ∧
      (12 * date.year + date.month : Int) = 12 * now.date.year + now.date.month - months ∧
      date.day = min now.date.day (Date.daysInMonth date.year date.month) := by
  obtain ⟨⟨hfirst, hlast, hmonth, hmonths, hday, -⟩, -⟩ := hnow
  have hindex : monthIndex now.date + 1 = 12 * now.date.year + now.date.month := by
    rw [monthIndex]
    omega
  unfold minusMonths?
  generalize monthIndex now.date = index at hindex ⊢
  simp only [Date.leastYear, Date.greatestYear] at hfirst hlast ⊢
  obtain ⟨year, month, day⟩ := date
  split
  · rename_i hbeyond
    simp only [reduceCtorEq, false_iff]
    rintro ⟨⟨hyear, -, hleast, hgreatest, -⟩, hback, -⟩
    simp only [Date.leastYear] at hyear hleast hgreatest hback
    omega
  · rename_i hwithin
    simp only [Option.some.injEq, Date.mk.injEq, Date.IsValid, Date.leastYear, Date.greatestYear]
    constructor
    · rintro ⟨hyear, hmonth, hday⟩
      have hdays := Date.one_le_daysInMonth year month
      rw [hyear, hmonth] at hday
      omega
    · rintro ⟨⟨hyear, -, hleast, hgreatest, -⟩, hback, hday⟩
      have hyears : (index - months) / 12 = year := by omega
      have hmonths : (index - months) % 12 + 1 = month := by omega
      rw [hyears, hmonths]
      exact ⟨rfl, rfl, hday.symm⟩

theorem minus?_eq_some_iff (hnow : now.IsValid) :
    now.minus? count unit = some date ↔ date.IsValid ∧ date.IsBack now count unit := by
  unfold minus?
  cases hunit : unit.seconds? with
  | some seconds =>
      simp only [minusSeconds?_eq_some_iff hnow, Int.natCast_mul]
      constructor
      · rintro ⟨hvalid, holds⟩
        exact ⟨hvalid, .clock hunit holds⟩
      · rintro ⟨hvalid, hback⟩
        refine ⟨hvalid, ?_⟩
        cases hback with
        | clock hunit' holds =>
            obtain rfl := Option.some.inj (hunit.symm.trans hunit')
            exact holds
        | calendar hunit' => cases hunit.symm.trans hunit'
  | none =>
      simp only [minusMonths?_eq_some_iff hnow, Int.natCast_mul]
      constructor
      · rintro ⟨hvalid, hmonth, hday⟩
        exact ⟨hvalid, .calendar hunit hmonth hday⟩
      · rintro ⟨hvalid, hback⟩
        refine ⟨hvalid, ?_⟩
        cases hback with
        | clock hunit' => cases hunit.symm.trans hunit'
        | calendar _ hmonth hday => exact ⟨hmonth, hday⟩

end Moment

/-! ## Release dates -/

theorem relativeDate_of_isBack (hnow : now.IsValid) (hlength : digits.length ≤ Text.maxDigits)
    (hdate : date.IsValid) (hback : date.IsBack now (Text.numeralValue digits) unit) :
    relativeDate raw now digits unit = date.text := by
  have hminus := (Moment.minus?_eq_some_iff hnow).2 ⟨hdate, hback⟩
  simp [relativeDate, Text.readNumeral, hlength, hminus]

theorem relativeDate_of_not_isBack (hnow : now.IsValid)
    (h : Text.maxDigits < digits.length ∨
      ¬∃ date : Date, date.IsValid ∧ date.IsBack now (Text.numeralValue digits) unit) :
    relativeDate raw now digits unit = raw := by
  unfold relativeDate
  split
  · rfl
  · rename_i count hcount
    unfold Text.readNumeral at hcount
    split at hcount
    · rename_i hlength
      cases hcount
      split
      · rename_i date hminus
        have hdate := (Moment.minus?_eq_some_iff hnow).1 hminus
        exact absurd ⟨date, hdate⟩ (h.resolve_left (by omega))
      · rfl
    · cases hcount

namespace DateParser

end DateParser

end Feuilleton
