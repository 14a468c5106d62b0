import Mathlib
import Slas.Type.Date

/-!
The day before and the day after, `libslas/src/type/date.cpp`.

* `getYesterdayDate`, `getTomorrowDate`: the functions of the class, `none` where
  they throw;
* `daysInMonth`, `Real`: the lengths of the months, and the dates of the calendar;
* `StepsBack`: the two functions are predecessor and successor around a date;
* `stepsBack_iff`: they are around the dates of the calendar, and around the 30th
  of a February that has 28 days.

`CheckDate` lets every month have 31 days. Both functions know the lengths of the
months: the day after is looked for by `day == GetNumberOfDayInMonth(month)`, which
a day behind the end of its month passes by.
-/

namespace Slas.Date

/-! ### The source -/

/-- `Date::Set` and `Date::Create` on computed values. A sum above the largest `int`
wraps around. -/
def ofInts? (day month year : ℤ) : Option Date :=
  create? (Int32.ofInt day) (Int32.ofInt month) (Int32.ofInt year)

/-- The array of `Date::GetNumberOfDayInMonth`. -/
def dayOfMonths (d : Date) : List ℤ :=
  let dayOfMonths := [31, 28, 31, 30, 31, 30, 31, 31, 30, 31, 30, 31]
  if (d.year % 4 = 0 ∧ d.year % 100 ≠ 0) ∨ d.year % 400 = 0 then dayOfMonths.set 1 29
  else dayOfMonths

/-- `Date::GetNumberOfDayInMonth`; `none` if `at` throws. -/
def getNumberOfDayInMonth (d : Date) (month : ℤ) : Option ℤ :=
  if month - 1 < 0 then none else d.dayOfMonths[(month - 1).toNat]?

/-- `Date::GetYesterdayDate`. Where no condition is met the source returns a date that
was never set. -/
def getYesterdayDate (d : Date) : Option Date :=
  if d.day > 1 then ofInts? (d.day - 1) d.month d.year
  else if d.day = 1 ∧ d.month > 1 then do
    let day ← d.getNumberOfDayInMonth (d.month - 1)
    ofInts? day (d.month - 1) d.year
  else if d.day = 1 ∧ d.month = 1 then do
    let day ← d.getNumberOfDayInMonth 12
    ofInts? day 12 (d.year - 1)
  else none

/-- `Date::GetTomorrowDate`. -/
def getTomorrowDate (d : Date) : Option Date := do
  let days ← d.getNumberOfDayInMonth d.month
  let (day, month) := if d.day = days then (1, d.month + 1) else (d.day + 1, d.month)
  let (month, year) := if month = 13 then (1, d.year + 1) else (month, d.year)
  ofInts? day month year

/-! ### The calendar -/

/-- How many days a month has. -/
def daysInMonth (month year : ℤ) : ℤ :=
  if month = 2 then if (4 ∣ year ∧ ¬100 ∣ year) ∨ 400 ∣ year then 29 else 28
  else if month = 4 ∨ month = 6 ∨ month = 9 ∨ month = 11 then 30
  else 31

/-- A date of the calendar. -/
def Real (d : Date) : Prop := d.day ≤ daysInMonth d.month d.year

/-- The last date a `Date` can hold. -/
def IsLast (d : Date) : Prop := d.day = 31 ∧ d.month = 12 ∧ d.year = 2147483647

/-- The day before and the day after are predecessor and successor. -/
structure StepsBack (d : Date) : Prop where
  tomorrow : ∃ t, d.getTomorrowDate = some t ∧ d.less t = true ∧
    (∀ e : Date, e.Real → ¬(d.less e = true ∧ e.less t = true)) ∧ t.getYesterdayDate = some d
  yesterday : ¬(d.day = 1 ∧ d.month = 1 ∧ d.year = 1970) →
    ∃ y, d.getYesterdayDate = some y ∧ y.getTomorrowDate = some d

lemma daysInMonth_cases (month year : ℤ) :
    28 ≤ daysInMonth month year ∧ daysInMonth month year ≤ 31 := by
  rw [daysInMonth]
  split_ifs <;> omega

lemma daysInMonth_turn (year : ℤ) : daysInMonth 1 year = 31 ∧ daysInMonth 12 year = 31 := by
  simp [daysInMonth]

/-- The table of the source has the lengths of the months. -/
lemma getNumberOfDayInMonth_eq (d : Date) {month : ℤ} (h : 1 ≤ month ∧ month ≤ 12) :
    d.getNumberOfDayInMonth month = some (daysInMonth month d.year) := by
  obtain ⟨hmonth, hmonth'⟩ := h
  have hleap : ((d.year % 4 = 0 ∧ d.year % 100 ≠ 0) ∨ d.year % 400 = 0) ↔
      ((4 ∣ d.year ∧ ¬100 ∣ d.year) ∨ 400 ∣ d.year) := by omega
  rw [getNumberOfDayInMonth, dayOfMonths, daysInMonth, if_neg (by omega)]
  simp only [hleap]
  split_ifs with hlength <;> interval_cases month <;> first | rfl | omega

/-! ### What the functions return -/

lemma month_mem (d : Date) : 1 ≤ d.month ∧ d.month ≤ 12 := by
  have h := d.checked
  rw [CheckDate] at h
  omega

lemma ofInts?_eq_some_iff {day month year : ℤ} {e : Date} (hday : 0 ≤ day ∧ day ≤ 32)
    (hmonth : 0 ≤ month ∧ month ≤ 13) (hyear : 1969 ≤ year ∧ year ≤ 2147483648) :
    ofInts? day month year = some e ↔ e.day = day ∧ e.month = month ∧ e.year = year := by
  have hd : (Int32.ofInt day).toInt = day := Int32.toInt_ofInt_of_le (by omega) (by omega)
  have hm : (Int32.ofInt month).toInt = month := Int32.toInt_ofInt_of_le (by omega) (by omega)
  have hchecked := e.checked
  have hfits := e.fits
  rw [ofInts?, create?]
  rcases eq_or_ne year 2147483648 with rfl | hne
  · -- the year wraps around to the smallest `int`
    have hy : (Int32.ofInt 2147483648).toInt = -2147483648 := by decide
    rw [dif_neg (by rw [hy, CheckDate]; omega)]
    simp only [reduceCtorEq, false_iff]
    omega
  · have hy : (Int32.ofInt year).toInt = year := Int32.toInt_ofInt_of_le (by omega) (by omega)
    simp only [hd, hm, hy]
    split_ifs with hcheck
    · obtain ⟨eday, emonth, eyear, _, _⟩ := e
      simp only [Option.some.injEq, mk.injEq]
      omega
    · simp only [false_iff]
      rintro ⟨rfl, rfl, rfl⟩
      exact hcheck hchecked

/-- The day after, by the three ways it can lie. -/
lemma getTomorrowDate_eq_some_iff {d t : Date} : d.getTomorrowDate = some t ↔
    (d.day ≠ daysInMonth d.month d.year ∧
      t.day = d.day + 1 ∧ t.month = d.month ∧ t.year = d.year) ∨
    (d.day = daysInMonth d.month d.year ∧ d.month < 12 ∧
      t.day = 1 ∧ t.month = d.month + 1 ∧ t.year = d.year) ∨
    (d.day = daysInMonth d.month d.year ∧ d.month = 12 ∧
      t.day = 1 ∧ t.month = 1 ∧ t.year = d.year + 1) := by
  have hchecked := d.checked
  have hfits := d.fits
  rw [CheckDate] at hchecked
  rw [getTomorrowDate, getNumberOfDayInMonth_eq d d.month_mem]
  simp only [Option.bind_eq_bind, Option.bind_some]
  by_cases hend : d.day = daysInMonth d.month d.year
  · by_cases hturn : d.month + 1 = 13
    · simp only [if_pos hend, if_pos hturn]
      rw [ofInts?_eq_some_iff (by omega) (by omega) (by omega)]
      omega
    · simp only [if_pos hend, if_neg hturn]
      rw [ofInts?_eq_some_iff (by omega) (by omega) (by omega)]
      omega
  · have hturn : d.month ≠ 13 := by omega
    simp only [if_neg hend, if_neg hturn]
    rw [ofInts?_eq_some_iff (by omega) (by omega) (by omega)]
    omega

/-- The day before, by the three ways it can lie. -/
lemma getYesterdayDate_eq_some_iff {d y : Date} : d.getYesterdayDate = some y ↔
    (1 < d.day ∧ y.day = d.day - 1 ∧ y.month = d.month ∧ y.year = d.year) ∨
    (d.day = 1 ∧ 1 < d.month ∧
      y.day = daysInMonth (d.month - 1) d.year ∧ y.month = d.month - 1 ∧ y.year = d.year) ∨
    (d.day = 1 ∧ d.month = 1 ∧ y.day = 31 ∧ y.month = 12 ∧ y.year = d.year - 1) := by
  have hchecked := d.checked
  have hfits := d.fits
  rw [CheckDate] at hchecked
  rw [getYesterdayDate]
  by_cases hday : d.day > 1
  · rw [if_pos hday, ofInts?_eq_some_iff (by omega) (by omega) (by omega)]
    omega
  · rw [if_neg hday]
    by_cases hmonth : d.month > 1
    · have hlength := daysInMonth_cases (d.month - 1) d.year
      rw [if_pos ⟨by omega, hmonth⟩, getNumberOfDayInMonth_eq d (by omega), Option.bind_eq_bind,
        Option.bind_some, ofInts?_eq_some_iff (by omega) (by omega) (by omega)]
      omega
    · have hlength := (daysInMonth_turn d.year).2
      rw [if_neg (by omega), if_pos (by omega), getNumberOfDayInMonth_eq d (by omega),
        Option.bind_eq_bind, Option.bind_some, ofInts?_eq_some_iff (by omega) (by omega) (by omega)]
      omega

/-! ### The steps -/

/-- There is a date for what `CheckDate` lets through. -/
lemma exists_of_checkDate (day month year : ℤ) (h : CheckDate day month year)
    (hfits : year ≤ 2147483647) : ∃ d : Date, d.day = day ∧ d.month = month ∧ d.year = year :=
  ⟨⟨day, month, year, h, hfits⟩, rfl, rfl, rfl⟩

/-- Months of the same name and year are equally long. -/
lemma daysInMonth_congr {d e : Date} (hmonth : e.month = d.month) (hyear : e.year = d.year) :
    daysInMonth e.month e.year = daysInMonth d.month d.year := by
  rw [hmonth, hyear]

/-- The next date of the calendar, or the next day behind the end of a February. -/
lemma exists_tomorrow {d : Date}
    (h : d.Real ∧ ¬d.IsLast ∨ d.day = 30 ∧ daysInMonth d.month d.year = 28) :
    ∃ t, d.getTomorrowDate = some t ∧ d.less t = true ∧
      (∀ e : Date, e.Real → ¬(d.less e = true ∧ e.less t = true)) ∧
        t.getYesterdayDate = some d := by
  have hchecked := d.checked
  have hfits := d.fits
  have hlength := daysInMonth_cases d.month d.year
  have hdecember := (daysInMonth_turn d.year).2
  rw [CheckDate] at hchecked
  rw [Real, IsLast] at h
  simp only [less_iff, lt_iff, getTomorrowDate_eq_some_iff, getYesterdayDate_eq_some_iff, Real]
  -- no date of the calendar is behind the end of the month of `d`
  have hbetween : ∀ e : Date, e.day ≤ daysInMonth e.month e.year → e.month = d.month →
      e.year = d.year → e.day ≤ daysInMonth d.month d.year :=
    fun e he hmonth hyear => daysInMonth_congr hmonth hyear ▸ he
  have hpos : ∀ e : Date, 1 ≤ e.day ∧ 1 ≤ e.month ∧ e.month ≤ 12 := fun e => by
    have he := e.checked
    rw [CheckDate] at he
    omega
  by_cases hend : d.day = daysInMonth d.month d.year
  · by_cases hturn : d.month = 12
    · rw [hturn] at hend
      obtain ⟨t, ht⟩ := exists_of_checkDate 1 1 (d.year + 1)
        (by rw [CheckDate]; omega) (by omega)
      refine ⟨t, ?_, by omega, fun e he => ?_, by omega⟩
      · rw [hturn]
        omega
      · have := hpos e
        have := hbetween e he
        rw [hturn] at this
        omega
    · obtain ⟨t, hday, hmonth, hyear⟩ := exists_of_checkDate 1 (d.month + 1) d.year
        (by rw [CheckDate]; omega) (by omega)
      refine ⟨t, by omega, by omega, fun e he => ?_, ?_⟩
      · have := hpos e
        have := hbetween e he
        omega
      · rw [hmonth, hyear, add_sub_cancel_right]
        omega
  · obtain ⟨t, ht⟩ := exists_of_checkDate (d.day + 1) d.month d.year
      (by rw [CheckDate]; omega) (by omega)
    refine ⟨t, by omega, by omega, fun e he => ?_, by omega⟩
    have := hpos e
    have := hbetween e he
    omega

/-- The day before, and the way back. -/
lemma exists_yesterday {d : Date} (hfirst : ¬(d.day = 1 ∧ d.month = 1 ∧ d.year = 1970))
    (h : d.day ≠ daysInMonth d.month d.year + 1) :
    ∃ y, d.getYesterdayDate = some y ∧ y.getTomorrowDate = some d := by
  have hchecked := d.checked
  have hfits := d.fits
  rw [CheckDate] at hchecked
  simp only [getTomorrowDate_eq_some_iff, getYesterdayDate_eq_some_iff]
  by_cases hday : d.day = 1
  · by_cases hmonth : d.month = 1
    · obtain ⟨y, hy, hm, hyear⟩ := exists_of_checkDate 31 12 (d.year - 1)
        (by rw [CheckDate]; omega) (by omega)
      have hdecember := (daysInMonth_turn y.year).2
      refine ⟨y, by omega, ?_⟩
      rw [hm]
      omega
    · have hlength := daysInMonth_cases (d.month - 1) d.year
      obtain ⟨y, hy, hm, hyear⟩ := exists_of_checkDate (daysInMonth (d.month - 1) d.year)
        (d.month - 1) d.year (by rw [CheckDate]; omega) (by omega)
      refine ⟨y, by omega, ?_⟩
      rw [hm, hyear]
      omega
  · obtain ⟨y, hy, hm, hyear⟩ := exists_of_checkDate (d.day - 1) d.month d.year
      (by rw [CheckDate]; omega) (by omega)
    refine ⟨y, by omega, ?_⟩
    rw [hm, hyear]
    omega

/-- A day behind the end of its month has no day after, or is not the one after the day
before it. -/
lemma StepsBack.real {d : Date} (h : d.StepsBack) (hnot : ¬d.Real) :
    d.day = 30 ∧ daysInMonth d.month d.year = 28 := by
  have hlength := daysInMonth_cases d.month d.year
  have hchecked := d.checked
  rw [CheckDate] at hchecked
  rw [Real] at hnot
  obtain ⟨t, htomorrow, -⟩ := h.tomorrow
  obtain ⟨y, hyesterday, hback⟩ := h.yesterday (by omega)
  rw [getTomorrowDate_eq_some_iff] at htomorrow hback
  rw [getYesterdayDate_eq_some_iff] at hyesterday
  have ht := t.checked
  rw [CheckDate] at ht
  have hmonth : y.month = d.month ∧ y.year = d.year := by omega
  rw [daysInMonth_congr hmonth.1 hmonth.2] at hback
  omega

/-- The year of the last date has no year after it. -/
lemma StepsBack.not_isLast {d : Date} (h : d.StepsBack) : ¬d.IsLast := by
  rintro ⟨hday, hmonth, hyear⟩
  have hdecember := (daysInMonth_turn d.year).2
  obtain ⟨t, htomorrow, -⟩ := h.tomorrow
  have hfits := t.fits
  rw [getTomorrowDate_eq_some_iff, hmonth] at htomorrow
  omega

/-- **When the steps lead back.** They do so around every date of the calendar but the
last, and around the 30th of February where February has 28 days. -/
theorem stepsBack_iff (d : Date) : d.StepsBack ↔
    d.Real ∧ ¬d.IsLast ∨ d.day = 30 ∧ daysInMonth d.month d.year = 28 := by
  refine ⟨fun h => ?_, fun h => ⟨exists_tomorrow h, fun hfirst => exists_yesterday hfirst ?_⟩⟩
  · by_cases hreal : d.Real
    · exact .inl ⟨hreal, h.not_isLast⟩
    · exact .inr (h.real hreal)
  · rcases h with ⟨hreal, -⟩ | h
    · rw [Real] at hreal
      omega
    · omega

/-- The 29th of February 2015 is accepted, and is not the day after the day before it. -/
theorem not_stepsBack_endOfFebruary :
    ∃ d, create? 29 2 2015 = some d ∧ ¬d.StepsBack := by
  refine ⟨⟨29, 2, 2015, by decide, by decide⟩, by decide, fun h => ?_⟩
  obtain ⟨y, hyesterday, hback⟩ := h.yesterday (by decide)
  have hy : y = ⟨28, 2, 2015, by decide, by decide⟩ :=
    Option.some_injective _ (hyesterday.symm.trans (by decide))
  rw [hy] at hback
  exact absurd hback (by decide)

end Slas.Date
