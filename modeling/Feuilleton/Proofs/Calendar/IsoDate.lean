import Feuilleton.Proofs.Calendar.GoingBack
import Feuilleton.Proofs.Extraction.Overlong
import Feuilleton.Proofs.Success

/-!
# Dates in ISO form

A release date is resolved to a date of the calendar or kept as it is. The year of a resolved date
is written without leading zeros, so the date is in ISO form when its year has four digits, and only
then. Texts in ISO form are in the order of their dates.
-/

namespace Feuilleton

variable {raw : String} {now : Moment} {date first second : Date}

/-! ## Texts of dates -/

namespace Date

/-- Four digits of the year and two each of the month and the day, with hyphens between them. -/
def IsIso (date : Date) (text : String) : Prop :=
  ∃ year month day, text.toList = year ++ '-' :: (month ++ '-' :: day) ∧
    Text.Spells 4 date.year year ∧ Text.Spells 2 date.month month ∧ Text.Spells 2 date.day day

theorem lt_iff_of_isIso {text text' : String} (h : first.IsIso text) (h' : second.IsIso text') :
    text < text' ↔ first.IsBefore second := by
  obtain ⟨year, month, day, htext, hyear, hmonth, hday⟩ := h
  obtain ⟨year', month', day', htext', hyear', hmonth', hday'⟩ := h'
  simp only [String.lt_iff, htext, htext', hyear.append_lt_append_iff hyear',
    hmonth.append_lt_append_iff hmonth', List.cons_lt_cons_iff, hday.lt_iff hday',
    Char.lt_irrefl, true_and, false_or, IsBefore]

theorem toList_text (date : Date) : date.text.toList = Nat.toDigits 10 date.year ++
    '-' :: ((Text.padded 2 date.month).toList ++ '-' :: (Text.padded 2 date.day).toList) := by
  simp [text, Text.natText]

theorem lt_hundred_of_isValid (h : date.IsValid) : date.month < 10 ^ 2 ∧ date.day < 10 ^ 2 := by
  obtain ⟨-, -, -, hmonth, -, hday⟩ := h
  have hdays : daysInMonth date.year date.month ≤ 31 := by
    unfold daysInMonth
    split
    · split <;> decide
    · split <;> decide
  omega

theorem le_year_of_isIso (h : date.IsValid) (hiso : first.IsIso date.text) :
    1000 ≤ date.year := by
  obtain ⟨hmonth, hday⟩ := lt_hundred_of_isValid h
  obtain ⟨year, month, day, htext, hyear, hmonth', hday'⟩ := hiso
  have hshort : (Nat.toDigits 10 date.year).length ≤ 3 ↔ date.year < 10 ^ 3 :=
    Nat.length_toDigits_le_iff (by decide) (by decide)
  have hlength := congrArg List.length htext
  simp only [toList_text, List.length_append, List.length_cons, hyear.length, hmonth'.length,
    hday'.length, (Text.spells_padded (by decide) hmonth).length,
    (Text.spells_padded (by decide) hday).length] at hlength
  omega

theorem isIso_text (h : date.IsValid) (hyear : 1000 ≤ date.year) : date.IsIso date.text := by
  obtain ⟨hmonth, hday⟩ := lt_hundred_of_isValid h
  have hlast : date.year < 10 ^ 4 := Nat.lt_succ_of_le h.2.1
  have hle := Text.length_toDigits_le (by decide) hlast
  have hshort : (Nat.toDigits 10 date.year).length ≤ 3 ↔ date.year < 10 ^ 3 :=
    Nat.length_toDigits_le_iff (by decide) (by decide)
  have hlength : (Nat.toDigits 10 date.year).length = 4 := by omega
  exact ⟨_, _, _, date.toList_text, hlength ▸ Text.spells_toDigits date.year,
    Text.spells_padded (by decide) hmonth, Text.spells_padded (by decide) hday⟩

end Date

/-! ## Release dates -/

namespace DateParser

variable {dates : DateParser}

/-- The text names the date, by a number of units of time or as a written date. -/
inductive Resolves (dates : DateParser) (raw : String) (now : Moment) (date : Date) : Prop
  | relative {digits : List Char} {unit : TimeUnit}
      (hdigits : Text.IsFirstDigits digits raw.toList)
      (hunit : TimeUnit.inText? (Text.lower raw) = some unit)
      (hlength : digits.length ≤ Text.maxDigits) (hdate : date.IsValid)
      (hback : date.IsBack now (Text.numeralValue digits) unit)
  | written (hwritten : State.isWrittenDate raw = true)
      (hread : dates.read raw now.date = .ok date)

/-- The text stays as it is, or becomes a date in ISO form. -/
def KeepsOrIso (dates : DateParser) (raw : String) (now : Moment) : Prop :=
  ∃ answer, dates.resolve raw now = .ok answer ∧
    (answer = raw ∨ ∃ date : Date, date.IsValid ∧ date.IsIso answer)

theorem resolve_of_isWrittenDate (h : State.isWrittenDate raw = true) :
    dates.resolve raw now = dates.written raw now := by
  rw [State.isWrittenDate, Bool.and_eq_true, Option.isSome_iff_exists, Option.isNone_iff_eq_none]
    at h
  obtain ⟨⟨digits, hdigits⟩, hunit⟩ := h
  simp only [resolve, hdigits, hunit]

theorem Resolves.isValid (h : dates.Resolves raw now date) : date.IsValid := by
  cases h with
  | relative _ _ _ hdate _ => exact hdate
  | written _ hread => exact dates.isValid_of_read hread

theorem Resolves.resolve_eq (hnow : now.IsValid) (h : dates.Resolves raw now date) :
    dates.resolve raw now = .ok date.text := by
  cases h with
  | @relative digits unit hdigits hunit hlength hdate hback =>
      have hanswer : relativeDate raw now digits unit = date.text :=
        relativeDate_of_isBack hnow hlength hdate hback
      simp only [resolve, Text.firstDigits?_eq_some_iff.2 hdigits, hunit, hanswer]
  | written hwritten hread =>
      rw [resolve_of_isWrittenDate hwritten, DateParser.written, hread]

theorem eq_or_resolves_of_resolve {answer : String} (hnow : now.IsValid)
    (h : dates.resolve raw now = .ok answer) :
    answer = raw ∨ ∃ date : Date, dates.Resolves raw now date ∧ answer = date.text := by
  unfold resolve at h
  cases hdigits : Text.firstDigits? raw.toList with
  | none =>
      simp only [hdigits, Except.ok.injEq] at h
      exact .inl h.symm
  | some digits =>
      have hfirst := Text.firstDigits?_eq_some_iff.1 hdigits
      cases hunit : TimeUnit.inText? (Text.lower raw) with
      | some unit =>
          simp only [hdigits, hunit, Except.ok.injEq] at h
          by_cases hback : digits.length ≤ Text.maxDigits ∧
              ∃ date : Date, date.IsValid ∧ date.IsBack now (Text.numeralValue digits) unit
          · obtain ⟨hlength, date, hdate, hback⟩ := hback
            rw [relativeDate_of_isBack hnow hlength hdate hback] at h
            exact .inr ⟨date, .relative hfirst hunit hlength hdate hback, h.symm⟩
          · rw [Classical.not_and_iff_not_or_not, Nat.not_le] at hback
            rw [relativeDate_of_not_isBack hnow hback] at h
            exact .inl h.symm
      | none =>
          have hwritten : State.isWrittenDate raw = true := by
            simp [State.isWrittenDate, hdigits, hunit]
          simp only [hdigits, hunit, DateParser.written] at h
          split at h
          · rename_i date hread
            exact .inr ⟨date, .written hwritten hread, (Except.ok.inj h).symm⟩
          · exact .inl (Except.ok.inj h).symm
          · cases h

/-- A release date stays as it is or becomes a date in ISO form unless the reader of written dates
breaks off, or the date lies before the year 1000 and the text does not spell it so. ISO forms are
in the order of their dates. -/
theorem keepsOrIso_iff (hnow : now.IsValid) :
    (dates.KeepsOrIso raw now ↔
      (State.isWrittenDate raw = true → dates.read raw now.date ≠ .error .imprecise) ∧
        ∀ date : Date, dates.Resolves raw now date → 1000 ≤ date.year ∨ date.text = raw) ∧
      ∀ (first second : Date) (text text' : String), first.IsValid → second.IsValid →
        first.IsIso text → second.IsIso text' →
          (text < text' ↔ first.dayNumber < second.dayNumber) := by
  constructor
  · constructor
    · rintro ⟨answer, hanswer, hform⟩
      constructor
      · intro hwritten himprecise
        rw [resolve_of_isWrittenDate hwritten, DateParser.written, himprecise] at hanswer
        cases hanswer
      · intro date hdate
        rw [hdate.resolve_eq hnow] at hanswer
        cases hanswer
        rcases hform with hraw | ⟨written, -, hiso⟩
        · exact .inr hraw
        · exact .inl (Date.le_year_of_isIso hdate.isValid hiso)
    · rintro ⟨hreads, hyears⟩
      have hok := State.isOk_resolve hreads
      cases hanswer : dates.resolve raw now with
      | error e =>
          rw [hanswer] at hok
          cases hok
      | ok answer =>
          refine ⟨answer, hanswer, ?_⟩
          rcases eq_or_resolves_of_resolve hnow hanswer with hraw | ⟨date, hdate, rfl⟩
          · exact .inl hraw
          · rcases hyears date hdate with hyear | hraw
            · exact .inr ⟨date, hdate.isValid, Date.isIso_text hdate.isValid hyear⟩
            · exact .inl hraw
  · intro first second text text' hfirst hsecond hiso hiso'
    rw [Date.lt_iff_of_isIso hiso hiso', Date.dayNumber_lt_iff hfirst hsecond]

theorem keepsOrIso_beforeMidnight :
    standard.KeepsOrIso "5 minutes ago" ⟨⟨2024, 1, 1⟩, 120⟩ ∧ "2023-12-31" < "2024-01-01" := by
  have hnow : Moment.IsValid ⟨⟨2024, 1, 1⟩, 120⟩ := ⟨by decide, by decide⟩
  have hfirst : Date.IsIso ⟨2023, 12, 31⟩ "2023-12-31" := Date.isIso_text (by decide) (by decide)
  have hsecond : Date.IsIso ⟨2024, 1, 1⟩ "2024-01-01" := Date.isIso_text (by decide) (by decide)
  have hkeeps := @keepsOrIso_iff "5 minutes ago" ⟨⟨2024, 1, 1⟩, 120⟩ standard hnow
  constructor
  · apply hkeeps.1.2
    constructor
    · exact fun hwritten => absurd hwritten (by decide +kernel)
    · intro date hdate
      left
      have hanswer : standard.resolve "5 minutes ago" ⟨⟨2024, 1, 1⟩, 120⟩ = .ok "2023-12-31" := rfl
      rw [hdate.resolve_eq hnow, Except.ok.injEq] at hanswer
      apply Date.le_year_of_isIso hdate.isValid
      rw [hanswer]
      exact hfirst
  · exact (hkeeps.2 _ _ _ _ (by decide) (by decide) hfirst hsecond).2 (by decide)

theorem not_keepsOrIso_shortYear :
    ¬standard.KeepsOrIso "1100 years ago" ⟨⟨2024, 1, 10⟩, 43200⟩ := by
  rintro ⟨answer, hanswer, hform⟩
  have hshort : standard.resolve "1100 years ago" ⟨⟨2024, 1, 10⟩, 43200⟩ =
      .ok (Date.text ⟨924, 1, 10⟩) := rfl
  rw [hshort, Except.ok.injEq] at hanswer
  subst hanswer
  rcases hform with hraw | ⟨date, -, hiso⟩
  · exact absurd hraw (by decide +kernel)
  · have hyear := Date.le_year_of_isIso (by decide) hiso
    simp at hyear

end DateParser

end Feuilleton
