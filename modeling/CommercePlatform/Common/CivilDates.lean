import CommercePlatform.Common.Calendar
/-!
# Civil dates and day numbers

`civilOfDay` takes a day number apart; `dayOfCivil` puts the parts together again, as
`date.toordinal` does up to the epoch. The days of a year of an era lie between two
bounds (`daysBefore_le`, `lt_daysBefore`), from which both directions follow: every day
number is that of its date (`dayOfCivil_civilOfDay`), and the date exists
(`civilOfDay_exists`).

The computation divides three times, by the days of an era, of a year and of a month.
Only the second division is not exact, because of the leap days: the day of the era is
first freed of the leap days before it (`withoutLeapDays`) and then divided by 365. The
bounds say that this gives the right year, by a case split on its position among 4, 100
and 400 years (`year_bounds`), and everything behind it is arithmetic.

The module exists because texts of dates are read back and compared: two days with one
date would be two timestamps with one text.
-/

namespace CommercePlatform

/-- The days of an era before a year of it. -/
def daysBefore (yoe : Int) : Int := 365 * yoe + yoe / 4 - yoe / 100

/-- The day of an era without the leap days before it. -/
def withoutLeapDays (doe : Int) : Int := doe - doe / 1460 + doe / 36524 - doe / 146096

theorem withoutLeapDays_mono {a b : Int} (h : a ≤ b) : withoutLeapDays a ≤ withoutLeapDays b := by
  unfold withoutLeapDays
  omega

/-- The first and the last day of each year of an era, where a day without its leap days is
divided by 365. -/
private theorem year_bounds : ∀ y : Fin 400,
    365 * (y : Int) ≤ withoutLeapDays (daysBefore y) ∧
      withoutLeapDays (daysBefore (y + 1) - 1) < 365 * ((y : Int) + 1) := by
  decide +kernel

theorem year_starts (yoe : Int) (h0 : 0 ≤ yoe) (h : yoe < 400) :
    365 * yoe ≤ withoutLeapDays (daysBefore yoe) := by
  have hyear := (year_bounds ⟨yoe.toNat, by omega⟩).1
  have hcast : ((⟨yoe.toNat, by omega⟩ : Fin 400) : Int) = yoe := Int.toNat_of_nonneg h0
  rwa [hcast] at hyear

theorem year_ends (yoe : Int) (h0 : 0 ≤ yoe) (h : yoe < 400) :
    withoutLeapDays (daysBefore (yoe + 1) - 1) < 365 * (yoe + 1) := by
  have hyear := (year_bounds ⟨yoe.toNat, by omega⟩).2
  have hcast : ((⟨yoe.toNat, by omega⟩ : Fin 400) : Int) = yoe := Int.toNat_of_nonneg h0
  rwa [hcast] at hyear

section Era

variable {doe yoe : Int} (h0 : 0 ≤ doe) (hdoe : doe < 146097)
  (hyoe : yoe = withoutLeapDays doe / 365)

include h0 hdoe hyoe

/-- An era has the years 0 to 399. -/
theorem yearOfEra_range : 0 ≤ yoe ∧ yoe < 400 := by
  rw [hyoe, withoutLeapDays]
  omega

/-- A day does not lie before its year. -/
theorem daysBefore_le : daysBefore yoe ≤ doe := by
  obtain ⟨hlow, hhigh⟩ := yearOfEra_range h0 hdoe hyoe
  by_contra hlt
  -- else it lies in a year before, and so does its share of the days
  by_cases hfirst : yoe = 0
  · rw [hfirst] at hlt
    exact hlt h0
  · have hends := year_ends (yoe - 1) (by omega) (by omega)
    rw [Int.sub_add_cancel] at hends
    have hmono : withoutLeapDays doe ≤ withoutLeapDays (daysBefore yoe - 1) :=
      withoutLeapDays_mono (by omega)
    omega

/-- A day lies before the next year of its era. -/
theorem lt_daysBefore (hlast : yoe < 399) : doe < daysBefore (yoe + 1) := by
  obtain ⟨hlow, hhigh⟩ := yearOfEra_range h0 hdoe hyoe
  by_contra hge
  have hstarts := year_starts (yoe + 1) (by omega) (by omega)
  have hmono : withoutLeapDays (daysBefore (yoe + 1)) ≤ withoutLeapDays doe :=
    withoutLeapDays_mono (by omega)
  omega

/-- A year has at most 366 days. -/
theorem dayOfYear_range : 0 ≤ doe - daysBefore yoe ∧ doe - daysBefore yoe ≤ 365 := by
  obtain ⟨hlow, hhigh⟩ := yearOfEra_range h0 hdoe hyoe
  have hstart := daysBefore_le h0 hdoe hyoe
  by_cases hlast : yoe < 399
  · have hend := lt_daysBefore h0 hdoe hyoe hlast
    unfold daysBefore at *
    omega
  · unfold daysBefore at *
    omega

/-- A 366th day is the leap day of the calendar year after: years start in March, so their last
day lies in the next one's February. -/
theorem leap_of_last (hday : doe - daysBefore yoe = 365) :
    (yoe + 1) % 4 = 0 ∧ ((yoe + 1) % 100 ≠ 0 ∨ (yoe + 1) % 400 = 0) := by
  obtain ⟨hlow, hhigh⟩ := yearOfEra_range h0 hdoe hyoe
  by_cases hlast : yoe < 399
  · have hend := lt_daysBefore h0 hdoe hyoe hlast
    have hfour : (yoe + 1) / 4 ≤ yoe / 4 + 1 := by omega
    have hhundred : yoe / 100 ≤ (yoe + 1) / 100 := by omega
    unfold daysBefore at hend hday
    have hquarter : (yoe + 1) / 4 = yoe / 4 + 1 := by omega
    have hcentury : (yoe + 1) / 100 = yoe / 100 := by omega
    omega
  · omega

end Era

/-- The era of a day number. -/
def eraOf (n : Int) : Int := (n + 719468) / 146097

/-- Its day in the era. -/
def dayOfEra (n : Int) : Int := n + 719468 - eraOf n * 146097

/-- Its year in the era. -/
def yearOfEra (n : Int) : Int := withoutLeapDays (dayOfEra n) / 365

/-- Its day in the year. -/
def dayOfYear (n : Int) : Int := dayOfEra n - daysBefore (yearOfEra n)

/-- Its month, counted from March. -/
def monthOfYear (n : Int) : Int := (5 * dayOfYear n + 2) / 153

theorem civilOfDay_eq (n : Int) : civilOfDay n =
    ⟨yearOfEra n + eraOf n * 400 +
        if (if monthOfYear n < 10 then monthOfYear n + 3 else monthOfYear n - 9) ≤ 2 then 1 else 0,
      if monthOfYear n < 10 then monthOfYear n + 3 else monthOfYear n - 9,
      dayOfYear n - (153 * monthOfYear n + 2) / 5 + 1⟩ := rfl

theorem dayOfEra_range (n : Int) : 0 ≤ dayOfEra n ∧ dayOfEra n < 146097 := by
  unfold dayOfEra eraOf
  omega

theorem yearOfEra_bounds (n : Int) : 0 ≤ yearOfEra n ∧ yearOfEra n < 400 :=
  yearOfEra_range (dayOfEra_range n).1 (dayOfEra_range n).2 rfl

theorem dayOfYear_bounds (n : Int) : 0 ≤ dayOfYear n ∧ dayOfYear n ≤ 365 :=
  dayOfYear_range (dayOfEra_range n).1 (dayOfEra_range n).2 rfl

/-- The day number of a date, from its era, its year in the era and its day in the year. -/
def dayOfCivil (d : CivilDate) : Int :=
  let y := if d.month ≤ 2 then d.year - 1 else d.year
  let mp := if d.month > 2 then d.month - 3 else d.month + 9
  (y / 400) * 146097 + (daysBefore (y % 400) + ((153 * mp + 2) / 5 + d.day - 1)) - 719468

/-- A day number is that of its date. -/
theorem dayOfCivil_civilOfDay (n : Int) : dayOfCivil (civilOfDay n) = n := by
  obtain ⟨hyear, hyear'⟩ := yearOfEra_bounds n
  obtain ⟨hday, hday'⟩ := dayOfYear_bounds n
  have hn : n = eraOf n * 146097 + dayOfEra n - 719468 := by
    unfold dayOfEra
    omega
  have hdoe : dayOfEra n = daysBefore (yearOfEra n) + dayOfYear n := by
    unfold dayOfYear
    omega
  have hmonth : monthOfYear n = (5 * dayOfYear n + 2) / 153 := rfl
  have hy : ∀ extra : Int, extra = 0 → (yearOfEra n + eraOf n * 400 + extra) / 400 = eraOf n ∧
      (yearOfEra n + eraOf n * 400 + extra) % 400 = yearOfEra n := fun extra h => by omega
  rw [civilOfDay_eq, dayOfCivil]
  by_cases hmp : monthOfYear n < 10
  · simp only [if_pos hmp]
    rw [if_neg (by omega), if_neg (by omega), if_pos (by omega), (hy 0 rfl).1, (hy 0 rfl).2]
    omega
  · simp only [if_neg hmp]
    rw [if_pos (by omega), if_pos (by omega), if_neg (by omega),
      show yearOfEra n + eraOf n * 400 + 1 - 1 = yearOfEra n + eraOf n * 400 + 0 by omega,
      (hy 0 rfl).1, (hy 0 rfl).2]
    omega

theorem civilOfDay_injective : Function.Injective civilOfDay :=
  Function.LeftInverse.injective dayOfCivil_civilOfDay

/-! ## Dates that exist -/

/-- `_is_leap`. -/
def isLeap (year : Int) : Bool := year % 4 = 0 && (year % 100 ≠ 0 || year % 400 = 0)

/-- `_days_in_month`. -/
def daysInMonth (year month : Int) : Int :=
  if month = 2 then (if isLeap year then 29 else 28)
  else if month = 4 ∨ month = 6 ∨ month = 9 ∨ month = 11 then 30 else 31

/-- `_check_date_fields`: a year from 1 to 9999, a month, and a day that month has. -/
def CivilDate.Exists (d : CivilDate) : Prop :=
  1 ≤ d.year ∧ d.year ≤ 9999 ∧ 1 ≤ d.month ∧ d.month ≤ 12 ∧ 1 ≤ d.day ∧
    d.day ≤ daysInMonth d.year d.month

instance (d : CivilDate) : Decidable d.Exists :=
  inferInstanceAs (Decidable (1 ≤ d.year ∧ d.year ≤ 9999 ∧ 1 ≤ d.month ∧ d.month ≤ 12 ∧
    1 ≤ d.day ∧ d.day ≤ daysInMonth d.year d.month))

/-- The last day of `date.max`, counted from the epoch; the first of `date.min` is `minDay`. -/
def maxDay : Int := 2932896

def minDay : Int := -719162

/-- The date of a day number is in the calendar. -/
theorem civilOfDay_month (n : Int) : 1 ≤ (civilOfDay n).month ∧ (civilOfDay n).month ≤ 12 ∧
    1 ≤ (civilOfDay n).day ∧
      (civilOfDay n).day ≤ daysInMonth (civilOfDay n).year (civilOfDay n).month := by
  obtain ⟨hyear, hyear'⟩ := yearOfEra_bounds n
  obtain ⟨hday, hday'⟩ := dayOfYear_bounds n
  have hmonth : monthOfYear n = (5 * dayOfYear n + 2) / 153 := rfl
  rw [civilOfDay_eq]
  -- the months are counted from March, so January and February belong to the next year
  by_cases hmp : monthOfYear n < 10
  · simp only [if_pos hmp]
    refine ⟨by omega, by omega, by omega, ?_⟩
    rw [daysInMonth, if_neg (by omega)]
    split <;> omega
  · simp only [if_neg hmp]
    rw [if_pos (by omega)]
    refine ⟨by omega, by omega, by omega, ?_⟩
    by_cases hfeb : monthOfYear n = 11
    · rw [daysInMonth, if_pos (by omega)]
      by_cases hlast : dayOfYear n = 365
      · -- the leap day
        have hleap := leap_of_last (dayOfEra_range n).1 (dayOfEra_range n).2 rfl hlast
        have hyes : isLeap (yearOfEra n + eraOf n * 400 + 1) = true := by
          simp only [isLeap, Bool.and_eq_true, Bool.or_eq_true, decide_eq_true_eq]
          rw [show withoutLeapDays (dayOfEra n) / 365 = yearOfEra n from rfl] at hleap
          omega
        rw [if_pos hyes]
        omega
      -- any other day of February
      · split <;> omega
    · rw [daysInMonth, if_neg (by omega), if_neg (by omega)]
      omega

/-- The date of a day between the two is one of `datetime.date`. -/
theorem civilOfDay_exists {n : Int} (hmin : minDay ≤ n) (hmax : n ≤ maxDay) :
    (civilOfDay n).Exists := by
  obtain ⟨hyear, hyear'⟩ := yearOfEra_bounds n
  obtain ⟨hday, hday'⟩ := dayOfYear_bounds n
  have hmonth : monthOfYear n = (5 * dayOfYear n + 2) / 153 := rfl
  have hdoe : dayOfEra n = daysBefore (yearOfEra n) + dayOfYear n := by
    unfold dayOfYear
    omega
  have hera : eraOf n * 146097 + dayOfEra n = n + 719468 := by
    unfold dayOfEra
    omega
  unfold minDay at hmin
  unfold maxDay at hmax
  unfold daysBefore at hdoe
  have hrange := dayOfEra_range n
  have hyears : 1 ≤ (civilOfDay n).year ∧ (civilOfDay n).year ≤ 9999 := by
    rw [civilOfDay_eq]
    by_cases hmp : monthOfYear n < 10
    · simp only [if_pos hmp]
      rw [if_neg (by omega)]
      omega
    · simp only [if_neg hmp]
      rw [if_pos (by omega)]
      omega
  exact ⟨hyears.1, hyears.2, civilOfDay_month n⟩

end CommercePlatform
