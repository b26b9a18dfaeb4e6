import Mathlib.Data.Nat.Basic
import PlainScan.Number.Decimal
import PlainScan.Time.Calendar

namespace PlainScan

/-!
# The calendar day by day

Dates are found from the numbers of days by an estimate.  Here this is compared with the calendar
as it is told: one date follows another.

* `CalendarDate.IsProper` — the day is one of the month, and the month one of the year.
* `CalendarDate.next` — the date of the day after.
* `CalendarDate.ofDay_toDay`, `CalendarDate.toDay_ofDay` — dates and numbers of days correspond.
* `CalendarDate.ofDay_succ` — the number after that of a date is the number of the next date.
-/

namespace CalendarDate

/-- The day is one of the month, and the month one of the year. -/
structure IsProper (d : CalendarDate) : Prop where
  year_pos : 1 ≤ d.year
  month_pos : 1 ≤ d.month
  month_le : d.month ≤ 12
  day_pos : 1 ≤ d.day
  day_le : d.day ≤ daysInMonth d.year d.month

/-- The date of the day after. -/
def next (d : CalendarDate) : CalendarDate :=
  if d.day < daysInMonth d.year d.month then ⟨d.year, d.month, d.day + 1⟩
  else if d.month < 12 then ⟨d.year, d.month + 1, 1⟩
  else ⟨d.year + 1, 1, 1⟩

/-- The written form of a date. -/
def text (d : CalendarDate) : String :=
  padZeros 4 d.year ++ "-" ++ padZeros 2 d.month ++ "-" ++ padZeros 2 d.day

/-! ### Months -/

/-- The days before a month are those before the month that precedes it, and its own. -/
theorem daysBeforeMonth_succ (year : Nat) {month : Nat} (h : 1 ≤ month) :
    daysBeforeMonth year (month + 1) = daysBeforeMonth year month + daysInMonth year month := by
  cases month with
  | zero => omega
  | succ m => rfl

theorem daysBeforeMonth_mono (year : Nat) {first last : Nat} (hpos : 1 ≤ first)
    (h : first ≤ last) : daysBeforeMonth year first ≤ daysBeforeMonth year last := by
  induction last, h using Nat.le_induction with
  | base => exact Nat.le_refl _
  | succ m hm ih =>
    rw [daysBeforeMonth_succ year (by omega)]
    omega

/-- A month has at least one day. -/
theorem daysInMonth_pos (year month : Nat) : 1 ≤ daysInMonth year month := by
  unfold daysInMonth
  split
  · split <;> omega
  · omega
  · omega
  · omega
  · omega
  · omega

/-- From an earlier month on, a day of a month is found. -/
theorem monthFrom_eq {year first month day : Nat} (hpos : 1 ≤ first) (hle : first ≤ month)
    {fuel : Nat} (hfuel : month ≤ first + fuel) (hday : 1 ≤ day)
    (hin : day ≤ daysInMonth year month) :
    monthFrom year fuel first
        (daysBeforeMonth year month - daysBeforeMonth year first + (day - 1)) = (month, day) := by
  induction fuel generalizing first with
  | zero =>
    obtain rfl : first = month := by omega
    rw [monthFrom, Nat.sub_self, Nat.zero_add, Nat.sub_add_cancel hday]
  | succ fuel ih =>
    rw [monthFrom]
    by_cases heq : first = month
    · -- the month is reached
      subst heq
      rw [Nat.sub_self, Nat.zero_add, if_pos (by omega), Nat.sub_add_cancel hday]
    · -- the days of a whole month are passed over
      have hstep := daysBeforeMonth_succ year hpos
      have hmono : daysBeforeMonth year (first + 1) ≤ daysBeforeMonth year month :=
        daysBeforeMonth_mono year (by omega) (by omega)
      rw [if_neg (by omega)]
      have hrest : daysBeforeMonth year month - daysBeforeMonth year first + (day - 1)
          - daysInMonth year first
            = daysBeforeMonth year month - daysBeforeMonth year (first + 1) + (day - 1) := by
        omega
      rw [hrest]
      exact ih (by omega) (by omega) (by omega)

/-- Some month from a given one on has the day, if it comes before the end of the year. -/
theorem exists_monthFrom_eq {year first rest : Nat} (hpos : 1 ≤ first) (hle : first ≤ 12)
    (hrest : daysBeforeMonth year first + rest < daysBeforeMonth year 13) :
    ∃ month day, first ≤ month ∧ month ≤ 12 ∧ 1 ≤ day ∧ day ≤ daysInMonth year month
      ∧ daysBeforeMonth year first + rest = daysBeforeMonth year month + (day - 1) := by
  by_cases hin : rest < daysInMonth year first
  · exact ⟨first, rest + 1, by omega, hle, by omega, by omega, by omega⟩
  · have hstep := daysBeforeMonth_succ year hpos
    by_cases hlast : first = 12
    · -- no month is left, and neither is a day
      subst hlast
      have hyear : daysBeforeMonth year 13 = daysBeforeMonth year 12 + daysInMonth year 12 := hstep
      omega
    · -- the days of a whole month are passed over
      have hmore : daysBeforeMonth year (first + 1) + (rest - daysInMonth year first)
          < daysBeforeMonth year 13 := by omega
      obtain ⟨month, day, hfirst, hmonth, hday, hdays, heq⟩ :=
        exists_monthFrom_eq (by omega) (by omega) hmore
      exact ⟨month, day, by omega, hmonth, hday, hdays, by omega⟩
  termination_by 12 - first

/-! ### Years -/

/-- The number of days of a year. -/
def daysInYear (year : Nat) : Nat := if isLeapYear year then 366 else 365

/-- A year is leap if four divides it, but not a hundred unless four hundred does. -/
theorem isLeapYear_iff (year : Nat) :
    isLeapYear year = true ↔ 4 ∣ year ∧ (¬ 100 ∣ year ∨ 400 ∣ year) := by
  simp [isLeapYear, Nat.dvd_iff_mod_eq_zero]

theorem daysBeforeYear_succ {year : Nat} (h : 1 ≤ year) :
    daysBeforeYear (year + 1) = daysBeforeYear year + daysInYear year := by
  obtain ⟨k, rfl⟩ : ∃ k, year = k + 1 := ⟨year - 1, by omega⟩
  -- a quotient grows where the year is a multiple
  have h4 : (k + 1) / 4 = k / 4 + if 4 ∣ k + 1 then 1 else 0 := Nat.succ_div
  have h100 : (k + 1) / 100 = k / 100 + if 100 ∣ k + 1 then 1 else 0 := Nat.succ_div
  have h400 : (k + 1) / 400 = k / 400 + if 400 ∣ k + 1 then 1 else 0 := Nat.succ_div
  have hdvd : 400 ∣ k + 1 → 100 ∣ k + 1 := Nat.dvd_trans (by decide)
  have hdvd' : 100 ∣ k + 1 → 4 ∣ k + 1 := Nat.dvd_trans (by decide)
  have hle : k / 100 ≤ k / 4 := by omega
  simp only [daysBeforeYear, daysInYear, isLeapYear_iff, Nat.add_sub_cancel, h4, h100, h400]
  by_cases hfour : 4 ∣ k + 1
  · by_cases hhundred : 100 ∣ k + 1
    · by_cases hfourhundred : 400 ∣ k + 1
      · simp only [hfour, hhundred, hfourhundred, if_true, not_true_eq_false, or_true, and_true]
        omega
      · simp only [hfour, hhundred, hfourhundred, if_true, if_false, not_true_eq_false, or_false,
          and_false]
        omega
    · have hfourhundred : ¬ 400 ∣ k + 1 := mt hdvd hhundred
      simp only [hfour, hhundred, hfourhundred, if_true, if_false, not_false_eq_true, true_or,
        and_true]
      omega
  · have hhundred : ¬ 100 ∣ k + 1 := mt hdvd' hfour
    have hfourhundred : ¬ 400 ∣ k + 1 := mt hdvd hhundred
    simp only [hfour, hhundred, hfourhundred, if_false, false_and]
    omega

/-- The months of a year make up the year. -/
theorem daysBeforeMonth_thirteen (year : Nat) : daysBeforeMonth year 13 = daysInYear year := by
  simp only [daysBeforeMonth, daysInMonth, daysInYear]
  split <;> rfl

theorem daysBeforeYear_lt {first last : Nat} (hpos : 1 ≤ first) (h : first < last) :
    daysBeforeYear first < daysBeforeYear last := by
  induction last, h using Nat.le_induction with
  | base =>
    rw [daysBeforeYear_succ hpos, daysInYear]
    split <;> omega
  | succ year hyear ih =>
    rw [daysBeforeYear_succ (by omega)]
    omega

/-- A year has begun by a day exactly if it is the year of that day or an earlier one. -/
theorem daysBeforeYear_le_iff {year other day : Nat} (hpos : 1 ≤ year) (hother : 1 ≤ other)
    (hle : daysBeforeYear year ≤ day) (hlt : day < daysBeforeYear (year + 1)) :
    daysBeforeYear other ≤ day ↔ other ≤ year := by
  rcases Nat.lt_trichotomy other year with h | rfl | h
  · have hmono := daysBeforeYear_lt hother h
    omega
  · simpa using hle
  · have hmono : daysBeforeYear (year + 1) ≤ daysBeforeYear other := by
      by_cases hnext : year + 1 = other
      · rw [hnext]
      · exact Nat.le_of_lt (daysBeforeYear_lt (Nat.le_add_left 1 year) (by omega))
    omega

/-- The estimate from the mean length of a year is wrong by one at most. -/
theorem estimate_near {year day : Nat} (hpos : 1 ≤ year) (hle : daysBeforeYear year ≤ day)
    (hlt : day < daysBeforeYear (year + 1)) :
    year ≤ day * 400 / 146097 + 2 ∧ day * 400 / 146097 ≤ year := by
  simp only [daysBeforeYear] at hle hlt
  omega

/-- The year that a day lies in is found. -/
theorem yearOf_eq {year day : Nat} (hpos : 1 ≤ year) (hle : daysBeforeYear year ≤ day)
    (hlt : day < daysBeforeYear (year + 1)) : yearOf day = year := by
  obtain ⟨hnear, hnear'⟩ := estimate_near hpos hle hlt
  have hyear := daysBeforeYear_le_iff hpos (by omega : 1 ≤ day * 400 / 146097 + 1) hle hlt
  have hnext := daysBeforeYear_le_iff hpos (by omega : 1 ≤ day * 400 / 146097 + 1 + 1) hle hlt
  simp only [yearOf, hnext, ← Nat.not_le, hyear]
  split
  · omega
  · split <;> omega

/-- Every day lies in some year. -/
theorem exists_year (day : Nat) :
    ∃ year, 1 ≤ year ∧ daysBeforeYear year ≤ day ∧ day < daysBeforeYear (year + 1) := by
  induction day with
  | zero => exact ⟨1, by decide⟩
  | succ day ih =>
    obtain ⟨year, hpos, hle, hlt⟩ := ih
    by_cases hlast : day + 1 < daysBeforeYear (year + 1)
    · exact ⟨year, hpos, by omega, hlast⟩
    · have hmono : daysBeforeYear (year + 1) < daysBeforeYear (year + 1 + 1) :=
        daysBeforeYear_lt (by omega) (by omega)
      exact ⟨year + 1, by omega, by omega, by omega⟩

/-! ### Dates -/

/-- A proper date lies in its year. -/
theorem IsProper.toDay_mem {d : CalendarDate} (h : d.IsProper) :
    daysBeforeYear d.year ≤ d.toDay ∧ d.toDay < daysBeforeYear (d.year + 1) := by
  have hyear := daysBeforeYear_succ h.year_pos
  have hmonth := daysBeforeMonth_succ d.year h.month_pos
  have hmono : daysBeforeMonth d.year (d.month + 1) ≤ daysBeforeMonth d.year 13 :=
    daysBeforeMonth_mono d.year (by omega) (Nat.succ_le_succ h.month_le)
  have hthirteen := daysBeforeMonth_thirteen d.year
  have hday := h.day_le
  have hday' := h.day_pos
  simp only [toDay]
  omega

/-- A proper date is found from its number. -/
theorem ofDay_toDay {d : CalendarDate} (h : d.IsProper) : ofDay d.toDay = d := by
  obtain ⟨hle, hlt⟩ := h.toDay_mem
  have hyear : yearOf d.toDay = d.year := yearOf_eq h.year_pos hle hlt
  have hmonth : monthFrom d.year 11 1
      (daysBeforeMonth d.year d.month - daysBeforeMonth d.year 1 + (d.day - 1))
        = (d.month, d.day) :=
    monthFrom_eq (Nat.le_refl 1) h.month_pos h.month_le h.day_pos h.day_le
  have hrest : d.toDay - daysBeforeYear d.year
      = daysBeforeMonth d.year d.month - daysBeforeMonth d.year 1 + (d.day - 1) := by
    simp only [toDay, daysBeforeMonth]
    omega
  simp only [ofDay, hyear, hrest, hmonth]

/-- Every number is that of a proper date. -/
theorem exists_toDay_eq (day : Nat) : ∃ d : CalendarDate, d.IsProper ∧ d.toDay = day := by
  obtain ⟨year, hpos, hle, hlt⟩ := exists_year day
  rw [daysBeforeYear_succ hpos, ← daysBeforeMonth_thirteen] at hlt
  have hfirst : daysBeforeMonth year 1 = 0 := rfl
  have hrest : daysBeforeMonth year 1 + (day - daysBeforeYear year) < daysBeforeMonth year 13 := by
    omega
  obtain ⟨month, dayOfMonth, hmonth, hmonth', hday, hday', heq⟩ :=
    exists_monthFrom_eq (Nat.le_refl 1) (by decide) hrest
  refine ⟨⟨year, month, dayOfMonth⟩, ⟨hpos, hmonth, hmonth', hday, hday'⟩, ?_⟩
  simp only [toDay]
  omega

/-- The date of a day is proper. -/
theorem isProper_ofDay (day : Nat) : (ofDay day).IsProper := by
  obtain ⟨d, hproper, rfl⟩ := exists_toDay_eq day
  rwa [ofDay_toDay hproper]

/-- A day is found from its date. -/
theorem toDay_ofDay (day : Nat) : (ofDay day).toDay = day := by
  obtain ⟨d, hproper, rfl⟩ := exists_toDay_eq day
  rw [ofDay_toDay hproper]

/-- The next date is proper. -/
theorem IsProper.next {d : CalendarDate} (h : d.IsProper) : d.next.IsProper := by
  have hyear := h.year_pos
  have hmonth := h.month_pos
  unfold CalendarDate.next
  split
  · rename_i hday
    exact ⟨hyear, hmonth, h.month_le, Nat.le_add_left _ _, hday⟩
  · split
    · rename_i hnext
      exact ⟨hyear, Nat.le_add_left _ _, hnext, Nat.le_refl _, daysInMonth_pos _ _⟩
    · exact ⟨Nat.le_add_left _ _, Nat.le_refl 1, Nat.le_add_left 1 11, Nat.le_refl _,
        daysInMonth_pos _ _⟩

/-- The next date has the next number. -/
theorem IsProper.toDay_next {d : CalendarDate} (h : d.IsProper) : d.next.toDay = d.toDay + 1 := by
  have hday := h.day_pos
  have hday' := h.day_le
  have hmonth := daysBeforeMonth_succ d.year h.month_pos
  unfold CalendarDate.next
  split
  · -- within a month
    simp only [toDay]
    omega
  · split
    · -- from one month to the next
      simp only [toDay]
      omega
    · -- from one year to the next
      have hlast : d.month = 12 := by
        have := h.month_le
        omega
      have hyear := daysBeforeYear_succ h.year_pos
      have hthirteen := daysBeforeMonth_thirteen d.year
      rw [hlast] at hmonth hday'
      simp only [toDay, hlast, daysBeforeMonth] at *
      omega

/-- **One date follows another.** The number after that of a date is the number of the next
    date. -/
theorem ofDay_succ (day : Nat) : ofDay (day + 1) = (ofDay day).next := by
  have hproper := isProper_ofDay day
  have hnext := hproper.toDay_next
  rw [toDay_ofDay] at hnext
  rw [← hnext, ofDay_toDay hproper.next]

/-- The day after the last of February of a leap year, and of one that is none. -/
example : (ofDay (toDay ⟨2024, 2, 28⟩ + 1), ofDay (toDay ⟨2100, 2, 28⟩ + 1))
    = (⟨2024, 2, 29⟩, ⟨2100, 3, 1⟩) := by decide

end CalendarDate

end PlainScan
