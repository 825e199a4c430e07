import ContainerWatch.Proofs.Calendar
import Mathlib.Tactic.IntervalCases

/-!
# Days counted by the rule of leap years

The days up to a date are those of the years before it, of which every fourth is a leap year, but of
the full centuries only every fourth, and those of the months before it.  Counted so, the dates that
exist have different numbers in the order of the dates, and the date that is found for a day exists
and has the number of that day.
-/

namespace ContainerWatch.Date

/-! ## The count -/

/-- The days of a year. -/
def daysInYear (year : Int) : Nat := if isLeap year then 366 else 365

/-- The days of the years from the first to one of them. -/
def daysOfYears : Nat → Nat
  | 0 => 0
  | year + 1 => daysOfYears year + daysInYear (year + 1 : Nat)

/-- The days of the months of a year from the first to one of them. -/
def daysOfMonths (year : Int) : Nat → Nat
  | 0 => 0
  | month + 1 => daysOfMonths year month + daysInMonth year (month + 1)

/-- The days from 1 January of the year 1 to a date. -/
def dayCount (date : Date) : Nat :=
  daysOfYears (date.year.toNat - 1) + daysOfMonths date.year (date.month - 1) + (date.day - 1)

/-- The days from 1 January 1970 to a date. -/
def dayNumber (date : Date) : Int := (dayCount date : Int) - dayCount ⟨1970, 1, 1⟩

/-- A date with a year that exists, and a month and a day in it. -/
def Exists (date : Date) : Prop := 1 ≤ date.year ∧ date.Valid

/-- A date that comes before another, by year, month and day. -/
def Before (first last : Date) : Prop :=
  first.year < last.year ∨ first.year = last.year ∧
    (first.month < last.month ∨ first.month = last.month ∧ first.day < last.day)

theorem daysOfYears_eq (year : Nat) :
    daysOfYears year = 365 * year + year / 4 - year / 100 + year / 400 := by
  induction year with
  | zero => rfl
  | succ year ih =>
      rw [daysOfYears, ih, daysInYear]
      by_cases leap : isLeap (year + 1 : Nat) = true
      · rw [if_pos leap]
        simp only [isLeap, Bool.and_eq_true, Bool.or_eq_true, bne_iff_ne, beq_iff_eq] at leap
        omega
      · rw [if_neg leap]
        simp only [isLeap, Bool.and_eq_true, Bool.or_eq_true, bne_iff_ne, beq_iff_eq] at leap
        omega

/-- The days of the months before a month, by the month. -/
theorem daysOfMonths_eq (year : Int) {month : Nat} (first : 1 ≤ month) (last : month ≤ 12) :
    daysOfMonths year (month - 1) =
      if month ≤ 2 then 31 * (month - 1)
      else (153 * (month - 3) + 2) / 5 + 59 + (if isLeap year then 1 else 0) := by
  cases leap : isLeap year with
  | true => interval_cases month <;> simp [daysOfMonths, daysInMonth, leap]
  | false => interval_cases month <;> simp [daysOfMonths, daysInMonth, leap]

theorem daysOfMonths_twelve (year : Int) : daysOfMonths year 12 = daysInYear year := by
  rw [daysInYear]
  cases leap : isLeap year with
  | true => simp [daysOfMonths, daysInMonth, leap]
  | false => simp [daysOfMonths, daysInMonth, leap]

/-- Where a year lies in its four hundred years tells the days of the years before it. -/
theorem daysOfYears_eq_cycles (year : Nat) :
    (daysOfYears year : Int) = (year : Int) / 400 * 146097 + daysBefore ((year : Int) % 400).toNat := by
  rw [daysOfYears_eq]
  unfold daysBefore
  omega

theorem daysOfYears_succ (year : Nat) :
    daysOfYears (year + 1) = daysOfYears year + 365 + (if isLeap (year + 1) then 1 else 0) := by
  rw [daysOfYears, daysInYear, Nat.cast_succ]
  cases isLeap (year + 1) <;> rfl

theorem dayNumber_mk (years month day : Nat) :
    dayNumber ⟨years + 1, month, day⟩ = daysOfYears years + daysOfMonths (years + 1) (month - 1)
      + (day - 1 : Nat) - 719162 := by
  have epoch : dayCount ⟨1970, 1, 1⟩ = 719162 := by
    simp [dayCount, daysOfYears_eq, daysOfMonths]
  have before : ((years : Int) + 1).toNat - 1 = years := by omega
  rw [dayNumber, epoch, dayCount]
  simp only [before]
  push_cast
  rfl

/-- The days up to a date that exists are counted as those of years that begin in March. -/
theorem dayNumber_eq_toDays {date : Date} (existing : date.Exists) :
    date.dayNumber = date.toDays := by
  obtain ⟨year, month, day⟩ := date
  obtain ⟨firstYear, first, last, firstDay, -⟩ := existing
  simp only at firstYear first last firstDay
  obtain ⟨years, rfl⟩ : ∃ years : Nat, year = years + 1 := ⟨(year - 1).toNat, by omega⟩
  rw [dayNumber_mk, daysOfMonths_eq _ first last]
  simp only [toDays]
  by_cases early : month ≤ 2
  · -- January and February are the last months of the year before.
    have whole := daysOfYears_eq_cycles years
    unfold daysBefore at whole
    rw [if_pos early, if_pos early, Int.add_sub_cancel]
    omega
  · have whole := daysOfYears_eq_cycles (years + 1)
    unfold daysBefore at whole
    have longer := daysOfYears_succ years
    rw [if_neg early, if_neg early]
    generalize (if isLeap (years + 1) then 1 else 0) = leapDay at longer ⊢
    push_cast at whole ⊢
    omega

/-! ## The order -/

theorem daysOfYears_mono : Monotone daysOfYears :=
  monotone_nat_of_le_succ fun year => by
    rw [daysOfYears]
    exact Nat.le_add_right _ _

theorem daysOfMonths_mono (year : Int) : Monotone (daysOfMonths year) :=
  monotone_nat_of_le_succ fun month => by
    rw [daysOfMonths]
    exact Nat.le_add_right _ _

theorem count_lt_month {date : Date} (existing : date.Exists) :
    daysOfMonths date.year (date.month - 1) + (date.day - 1) < daysOfMonths date.year date.month := by
  obtain ⟨-, first, -, firstDay, lastDay⟩ := existing
  obtain ⟨before, next⟩ := Nat.exists_eq_add_of_le' first
  rw [next] at lastDay ⊢
  rw [daysOfMonths, Nat.add_sub_cancel]
  omega

theorem count_lt_year {date : Date} (existing : date.Exists) :
    dayCount date < daysOfYears date.year.toNat := by
  have month := count_lt_month existing
  obtain ⟨firstYear, -, last, -, -⟩ := existing
  have year := daysOfMonths_mono date.year last
  rw [daysOfMonths_twelve] at year
  obtain ⟨before, next⟩ : ∃ before : Nat, date.year = (before + 1 : Nat) :=
    ⟨(date.year - 1).toNat, by omega⟩
  rw [dayCount]
  rw [next] at month year ⊢
  rw [Int.toNat_natCast, Nat.add_sub_cancel, daysOfYears]
  omega

theorem dayCount_lt_of_before {first last : Date} (existing : first.Exists)
    (before : Before first last) : dayCount first < dayCount last := by
  rcases before with year | ⟨year, month | ⟨month, day⟩⟩
  · -- The later date lies behind the whole year of the earlier one.
    have within := count_lt_year existing
    have years : daysOfYears first.year.toNat ≤ daysOfYears (last.year.toNat - 1) :=
      daysOfYears_mono (by have := existing.1; omega)
    rw [dayCount] at within ⊢
    rw [dayCount]
    omega
  · have within := count_lt_month existing
    have months : daysOfMonths first.year first.month ≤ daysOfMonths first.year (last.month - 1) :=
      daysOfMonths_mono _ (by omega)
    rw [dayCount, dayCount, ← year]
    omega
  · have firstDay : 1 ≤ first.day := existing.2.2.2.1
    rw [dayCount, dayCount, ← year, ← month]
    omega

theorem before_or_eq_of_dayNumber_le {first last : Date} (existing : last.Exists)
    (le : dayNumber first ≤ dayNumber last) : Before first last ∨ first = last := by
  have counted : dayCount first ≤ dayCount last := by
    unfold dayNumber at le
    omega
  by_cases after : Before last first
  · exact absurd (dayCount_lt_of_before existing after) counted.not_gt
  · obtain ⟨year, month, day⟩ := first
    obtain ⟨year', month', day'⟩ := last
    simp only [Before, Date.mk.injEq] at after ⊢
    omega

/-! ## Dates of days -/

theorem isLeap_iff (year : Int) :
    isLeap year = true ↔ year % 4 = 0 ∧ (year % 100 ≠ 0 ∨ year % 400 = 0) := by
  simp [isLeap]

/-- A year that begins in March has 365 days, and one more if the year that it ends in is a leap
    year. -/
theorem lt_daysBefore_add {day : Nat} (inside : day < 146097) :
    day < daysBefore (yearWithin day) + 365
      + (if isLeap ((yearWithin day : Int) + 1) then 1 else 0) := by
  by_cases last : day = 146096
  · subst last
    decide
  · have split : day
        = 36524 * (day / 36524) + 1461 * (day % 36524 / 1461) + day % 36524 % 1461 := by omega
    have centuries : day / 36524 ≤ 3 := by omega
    have cycles : day % 36524 / 1461 ≤ 24 := by omega
    have found := yearWithin_eq centuries cycles (show day % 36524 % 1461 ≤ 1460 by omega) (by omega)
    rw [← split] at found
    rw [found, daysBefore_eq cycles (Nat.min_le_left 3 _)]
    by_cases leap : isLeap (((100 * (day / 36524) + 4 * (day % 36524 / 1461)
        + min 3 (day % 36524 % 1461 / 365) : Nat) : Int) + 1) = true
    · rw [if_pos leap]
      omega
    · rw [if_neg leap]
      rw [isLeap_iff] at leap
      omega

/-- A day of a year that begins in March lies in the month that is found for it, also where that is
    February. -/
theorem monthWithin_le {day : Nat} {year : Int}
    (inside : day < 365 + (if isLeap year then 1 else 0)) :
    day - (153 * monthWithin day + 2) / 5 + 1 ≤ daysInMonth year (numbered (monthWithin day)) := by
  have few : monthWithin day ≤ 11 := by
    unfold monthWithin
    split at inside <;> omega
  have next : day < (153 * (monthWithin day + 1) + 2) / 5 := by
    unfold monthWithin
    omega
  generalize monthWithin day = month at few next ⊢
  rcases few.eq_or_lt with february | early
  · subst february
    change day - 337 + 1 ≤ if isLeap year then 29 else 28
    split at inside
    case isTrue leap =>
      rw [if_pos leap]
      omega
    case isFalse common =>
      rw [if_neg common]
      omega
  · clear inside
    interval_cases month <;> simp [numbered, daysInMonth] at next ⊢ <;> omega

/-- The year matters to the length of February only, and there by whether it is a leap year. -/
theorem daysInMonth_congr {year year' : Int} {month : Nat}
    (same : month = 2 → isLeap year = isLeap year') :
    daysInMonth year month = daysInMonth year' month := by
  by_cases february : month = 2
  · rw [daysInMonth, daysInMonth, if_pos february, if_pos february, same february]
  · rw [daysInMonth, daysInMonth, if_neg february, if_neg february]

theorem ofDays_valid (days : Int) : (ofDays days).Valid := by
  obtain ⟨yearInside, -⟩ := dayOfCycle_spec days
  obtain ⟨-, counted⟩ := dayOfYear_spec days
  have inside := lt_daysBefore_add yearInside
  obtain ⟨firstMonth, lastMonth⟩ := ofDays_month_bounds days
  obtain ⟨firstDay, -⟩ := ofDays_day_bounds days
  refine ⟨firstMonth, lastMonth, firstDay, ?_⟩
  -- February lies in the year after the one that began in March.
  have february : (ofDays days).month = 2 →
      isLeap (ofDays days).year = isLeap ((yearWithin (dayOfCycle days) : Int) + 1) := by
    intro month
    rw [ofDays_month] at month
    rw [ofDays_year, if_pos (by omega), Bool.eq_iff_iff, isLeap_iff, isLeap_iff]
    omega
  rw [daysInMonth_congr february, ofDays_month, ofDays_day]
  apply monthWithin_le
  omega

/-- The date of a day has the number of that day. -/
theorem dayNumber_ofDays {days : Int} (first : 1 ≤ (ofDays days).year) :
    (ofDays days).dayNumber = days := by
  rw [dayNumber_eq_toDays ⟨first, ofDays_valid days⟩, toDays_ofDays]

end ContainerWatch.Date
