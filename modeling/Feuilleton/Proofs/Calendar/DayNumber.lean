import Feuilleton.Calendar.Date

/-!
# Day numbers

Day numbers count the days of the calendar in their order: every number from 1 on belongs to one
date, and every date has one number. The number of a date is recovered from years of 365 or 366 days
in cycles of 4, 100 and 400 years.
-/

namespace Feuilleton.Date

variable {date earlier later : Date} {year next month number offset left : Nat}

/-! ## Years -/

theorem isLeap_iff :
    isLeap year = true ↔ year % 4 = 0 ∧ (year % 100 ≠ 0 ∨ year % 400 = 0) := by
  simp [isLeap]

def yearLength (year : Nat) : Nat :=
  if isLeap year then 366 else 365

theorem daysBeforeYear_succ (h : 1 ≤ year) :
    daysBeforeYear (year + 1) = daysBeforeYear year + yearLength year := by
  obtain ⟨y, rfl⟩ := Nat.exists_eq_add_of_le' h
  have hfour : (y + 1) / 4 = y / 4 + if (y + 1) % 4 = 0 then 1 else 0 := by split <;> omega
  have hhundred : (y + 1) / 100 = y / 100 + if (y + 1) % 100 = 0 then 1 else 0 := by
    split <;> omega
  have hcycle : (y + 1) / 400 = y / 400 + if (y + 1) % 400 = 0 then 1 else 0 := by
    split <;> omega
  have hfewer : y / 100 ≤ y / 4 := by omega
  have hfourth : (y + 1) % 100 = 0 → (y + 1) % 4 = 0 := by omega
  have hhundredth : (y + 1) % 400 = 0 → (y + 1) % 100 = 0 := by omega
  simp only [daysBeforeYear, yearLength, isLeap_iff, Nat.add_sub_cancel, hfour, hhundred, hcycle]
  by_cases hleap : (y + 1) % 4 = 0
  · by_cases hcentury : (y + 1) % 100 = 0
    · by_cases hlong : (y + 1) % 400 = 0
      · simp only [hleap, hcentury, hlong, if_true, and_true, or_true]
        omega
      · simp only [hleap, hcentury, hlong, if_true, if_false, ne_eq, not_true, or_false, and_false]
        omega
    · have hlong : ¬(y + 1) % 400 = 0 := fun hlong => hcentury (hhundredth hlong)
      simp only [hleap, hcentury, hlong, if_true, if_false, ne_eq, not_false_eq_true, true_or,
        and_true]
      omega
  · have hcentury : ¬(y + 1) % 100 = 0 := fun hcentury => hleap (hfourth hcentury)
    have hlong : ¬(y + 1) % 400 = 0 := fun hlong => hcentury (hhundredth hlong)
    simp only [hleap, hcentury, hlong, if_false, false_and]
    omega

theorem daysBeforeYear_add_le (hyear : 1 ≤ year) (h : year < next) :
    daysBeforeYear year + yearLength year ≤ daysBeforeYear next := by
  induction next with
  | zero => omega
  | succ next ih =>
      rcases Nat.lt_succ_iff_lt_or_eq.1 h with hlt | rfl
      · rw [daysBeforeYear_succ (by omega)]
        have hbefore := ih hlt
        omega
      · exact Nat.le_of_eq (daysBeforeYear_succ hyear).symm

/-! ## Months -/

theorem one_le_daysInMonth (year month : Nat) : 1 ≤ daysInMonth year month := by
  unfold daysInMonth
  split
  · split <;> decide
  · split <;> decide

theorem daysBeforeMonth_succ (year : Nat) (h : 1 ≤ month) : daysBeforeMonth year (month + 1) =
    daysBeforeMonth year month + daysInMonth year month := by
  cases month with
  | zero => omega
  | succ month => rfl

theorem daysBeforeMonth_add_le (year : Nat) (hmonth : 1 ≤ month) (h : month < next) :
    daysBeforeMonth year month + daysInMonth year month ≤ daysBeforeMonth year next := by
  induction next with
  | zero => omega
  | succ next ih =>
      rcases Nat.lt_succ_iff_lt_or_eq.1 h with hlt | rfl
      · rw [daysBeforeMonth_succ year (by omega)]
        have hbefore := ih hlt
        omega
      · exact Nat.le_of_eq (daysBeforeMonth_succ year hmonth).symm

theorem daysBeforeMonth_thirteen (year : Nat) : daysBeforeMonth year 13 = yearLength year := by
  simp only [daysBeforeMonth, daysInMonth, yearLength]
  cases isLeap year <;> rfl

/-! ## Order -/

/-- The years decide first, then the months and then the days. -/
def IsBefore (earlier later : Date) : Prop :=
  earlier.year < later.year ∨ earlier.year = later.year ∧
    (earlier.month < later.month ∨ earlier.month = later.month ∧ earlier.day < later.day)

theorem isBefore_or_eq_or_isBefore (earlier later : Date) :
    earlier.IsBefore later ∨ earlier = later ∨ later.IsBefore earlier := by
  obtain ⟨y, m, d⟩ := earlier
  obtain ⟨y', m', d'⟩ := later
  simp only [IsBefore, Date.mk.injEq]
  omega

theorem one_le_dayNumber (h : date.IsValid) : 1 ≤ date.dayNumber := by
  obtain ⟨-, -, -, -, hday, -⟩ := h
  rw [dayNumber]
  omega

theorem dayNumber_le (h : date.IsValid) :
    date.dayNumber ≤ daysBeforeYear date.year + yearLength date.year := by
  obtain ⟨-, -, hmonth, hlast, -, hday⟩ := h
  have hyear := daysBeforeMonth_add_le date.year hmonth (by omega : date.month < 13)
  rw [daysBeforeMonth_thirteen] at hyear
  rw [dayNumber]
  omega

theorem dayNumber_lt_of_isBefore (hearlier : earlier.IsValid) (hlater : later.IsValid)
    (h : earlier.IsBefore later) : earlier.dayNumber < later.dayNumber := by
  have hend := dayNumber_le hearlier
  obtain ⟨hyear, -, hmonth, -, -, hlast⟩ := hearlier
  obtain ⟨-, -, -, -, hday, -⟩ := hlater
  rcases h with hyears | ⟨hyears, hmonths | ⟨hmonths, hdays⟩⟩
  · have hyears := daysBeforeYear_add_le hyear hyears
    unfold dayNumber at hend ⊢
    omega
  · have hmonths := daysBeforeMonth_add_le earlier.year hmonth hmonths
    unfold dayNumber
    rw [hyears] at hmonths hlast ⊢
    omega
  · unfold dayNumber
    rw [hyears, hmonths]
    omega

theorem dayNumber_lt_iff (hearlier : earlier.IsValid) (hlater : later.IsValid) :
    earlier.dayNumber < later.dayNumber ↔ earlier.IsBefore later := by
  constructor
  · intro h
    rcases isBefore_or_eq_or_isBefore earlier later with hbefore | rfl | hafter
    · exact hbefore
    · omega
    · have hlt := dayNumber_lt_of_isBefore hlater hearlier hafter
      omega
  · exact dayNumber_lt_of_isBefore hearlier hlater

theorem eq_of_dayNumber_eq (hearlier : earlier.IsValid) (hlater : later.IsValid)
    (h : earlier.dayNumber = later.dayNumber) : earlier = later := by
  rcases isBefore_or_eq_or_isBefore earlier later with hbefore | rfl | hafter
  · have hlt := dayNumber_lt_of_isBefore hearlier hlater hbefore
    omega
  · rfl
  · have hlt := dayNumber_lt_of_isBefore hlater hearlier hafter
    omega

/-! ## The date of a number -/

/-- Month and day of the day of the year with this number, from 1 on. -/
structure IsDayOfYear (year number : Nat) (place : Nat × Nat) : Prop where
  one_le_month : 1 ≤ place.1
  month_le : place.1 ≤ 12
  one_le_day : 1 ≤ place.2
  day_le : place.2 ≤ daysInMonth year place.1
  number_eq : daysBeforeMonth year place.1 + place.2 = number

theorem isDayOfYear_monthAndDay_of_month (hmonth : 1 ≤ month) (hleft : month + left = 12)
    (hoffset : daysBeforeMonth year month + offset < yearLength year) :
    IsDayOfYear year (daysBeforeMonth year month + offset + 1)
      (monthAndDay year left month offset) := by
  induction left generalizing month offset with
  | zero =>
      obtain rfl : month = 12 := hleft
      have hyear := daysBeforeMonth_succ year hmonth
      rw [daysBeforeMonth_thirteen] at hyear
      simp only [monthAndDay]
      constructor <;> simp only <;> omega
  | succ left ih =>
      rw [monthAndDay]
      split
      · constructor <;> simp only <;> omega
      · -- The days of the month move from the offset to the days before the next month.
        have hnext := daysBeforeMonth_succ year hmonth
        have hbehind : daysBeforeMonth year (month + 1) + (offset - daysInMonth year month) =
            daysBeforeMonth year month + offset := by omega
        have hplace := @ih (month + 1) (offset - daysInMonth year month) (by omega) (by omega)
        rw [hbehind] at hplace
        exact hplace hoffset

theorem isDayOfYear_monthAndDay (hoffset : offset < yearLength year) :
    IsDayOfYear year (offset + 1) (monthAndDay year 11 1 offset) := by
  have hstart : daysBeforeMonth year 1 = 0 := rfl
  have hplace := isDayOfYear_monthAndDay_of_month (Nat.le_refl 1) (rfl : 1 + 11 = 12)
    (by omega : daysBeforeMonth year 1 + offset < yearLength year)
  rw [hstart, Nat.zero_add] at hplace
  exact hplace

theorem daysBeforeYear_cycles {centuries4 centuries years4 years : Nat} (hcenturies : centuries ≤ 3)
    (hyears4 : years4 ≤ 24) (hyears : years ≤ 3) :
    daysBeforeYear (400 * centuries4 + 100 * centuries + 4 * years4 + years + 1) =
      146097 * centuries4 + 36524 * centuries + 1461 * years4 + 365 * years := by
  simp only [daysBeforeYear, Nat.add_sub_cancel]
  omega

theorem lt_yearLength {centuries4 centuries years4 years : Nat} (hyears4 : years4 ≤ 24)
    (hyears : years ≤ 3) (hoffset : offset ≤ 365)
    (hlast : offset = 365 → years = 3 ∧ (years4 < 24 ∨ centuries = 3)) :
    offset < yearLength (400 * centuries4 + 100 * centuries + 4 * years4 + years + 1) := by
  unfold yearLength
  split
  · omega
  · rename_i hcommon
    rw [isLeap_iff] at hcommon
    omega

theorem exists_ofDayNumber_eq (h : 1 ≤ number) :
    ∃ year offset, 1 ≤ year ∧ offset < yearLength year ∧
      number = daysBeforeYear year + offset + 1 ∧
      ofDayNumber number =
        ⟨year, (monthAndDay year 11 1 offset).1, (monthAndDay year 11 1 offset).2⟩ := by
  refine ⟨_, _, ?_, ?_, ?_, rfl⟩
  · omega
  · apply lt_yearLength
    · omega
    · omega
    · omega
    · omega
  · rw [daysBeforeYear_cycles]
    · omega
    · omega
    · omega
    · omega

theorem dayNumber_ofDayNumber (h : 1 ≤ number) : (ofDayNumber number).dayNumber = number := by
  obtain ⟨year, offset, -, hoffset, hnumber, heq⟩ := exists_ofDayNumber_eq h
  have hplace := (isDayOfYear_monthAndDay hoffset).number_eq
  rw [heq, dayNumber, hnumber, Nat.add_assoc, hplace, Nat.add_assoc]

theorem isValid_ofDayNumber (h : 1 ≤ number)
    (hlast : (ofDayNumber number).year ≤ greatestYear) : (ofDayNumber number).IsValid := by
  obtain ⟨year, offset, hfirst, hoffset, -, heq⟩ := exists_ofDayNumber_eq h
  have hplace := isDayOfYear_monthAndDay hoffset
  rw [heq] at hlast ⊢
  exact ⟨hfirst, hlast, hplace.one_le_month, hplace.month_le, hplace.one_le_day, hplace.day_le⟩

theorem year_ofDayNumber_le (h : 1 ≤ number) (hdate : date.IsValid)
    (hle : number ≤ date.dayNumber) : (ofDayNumber number).year ≤ date.year := by
  obtain ⟨year, offset, -, hoffset, hnumber, heq⟩ := exists_ofDayNumber_eq h
  simp only [heq]
  apply Nat.le_of_not_lt
  intro hlater
  have hend := dayNumber_le hdate
  have hyears := daysBeforeYear_add_le hdate.1 hlater
  omega

theorem isValid_ofDayNumber_of_le (h : 1 ≤ number) (hdate : date.IsValid)
    (hle : number ≤ date.dayNumber) : (ofDayNumber number).IsValid :=
  isValid_ofDayNumber h (Nat.le_trans (year_ofDayNumber_le h hdate hle) hdate.2.1)

theorem ofDayNumber_dayNumber (h : date.IsValid) : ofDayNumber date.dayNumber = date := by
  have hfirst := one_le_dayNumber h
  have hvalid := isValid_ofDayNumber_of_le hfirst h Nat.le.refl
  exact eq_of_dayNumber_eq hvalid h (dayNumber_ofDayNumber hfirst)

end Feuilleton.Date
