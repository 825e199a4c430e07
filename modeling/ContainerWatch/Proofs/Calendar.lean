import ContainerWatch.Calendar

/-!
# Dates and days

The date that is found for a day is counted back as that day.  A cycle of four hundred years consists
of four centuries of 36524 days, of which the last has one more; a century consists of cycles of four
years, of 1461 days each, and the last of them lacks a day.  Where a day lies in them tells its year.
-/

namespace ContainerWatch.Date

/-! ## Years -/

/-- The days of a cycle of four hundred years that lie before one of its years. -/
def daysBefore (year : Nat) : Nat := 365 * year + year / 4 - year / 100

/-- The year of a cycle in which one of its days lies. -/
def yearWithin (day : Nat) : Nat := (day - day / 1460 + day / 36524 - day / 146096) / 365

section Years

variable {century cycle day : Nat}

/-- The year of a day, by the century, the cycle of four years and the day of that cycle.  The last day
    of a cycle with a leap year is one more of its last year. -/
theorem yearWithin_eq (centuries : century ≤ 3) (cycles : cycle ≤ 24) (days : day ≤ 1460)
    (inside : 1461 * cycle + day < 36524) :
    yearWithin (36524 * century + 1461 * cycle + day)
      = 100 * century + 4 * cycle + min 3 (day / 365) := by
  -- the cycles of four years that lie before the day, where the last days may count for the next
  obtain ⟨extra, extra_eq⟩ : ∃ extra, extra = (24 * century + cycle + day) / 1460 := ⟨_, rfl⟩
  have cyclesBefore : (36524 * century + 1461 * cycle + day) / 1460
      = 25 * century + cycle + extra := by omega
  have centuriesBefore : (36524 * century + 1461 * cycle + day) / 36524 = century := by omega
  have within : (36524 * century + 1461 * cycle + day) / 146096 = 0 := by omega
  unfold yearWithin
  rw [cyclesBefore, centuriesBefore, within]
  omega

/-- The days before a year, by its century, its cycle of four years and its place in that. -/
theorem daysBefore_eq {year : Nat} (cycles : cycle ≤ 24) (years : year ≤ 3) :
    daysBefore (100 * century + 4 * cycle + year)
      = 36524 * century + 1461 * cycle + 365 * year := by
  unfold daysBefore
  omega

theorem daysBefore_yearWithin (inside : day < 146097) :
    yearWithin day ≤ 399 ∧ daysBefore (yearWithin day) ≤ day ∧
      day ≤ daysBefore (yearWithin day) + 365 := by
  by_cases last : day = 146096
  · subst last
    decide
  · have split : day
        = 36524 * (day / 36524) + 1461 * (day % 36524 / 1461) + day % 36524 % 1461 := by omega
    have centuries : day / 36524 ≤ 3 := by omega
    have cycles : day % 36524 / 1461 ≤ 24 := by omega
    have found := yearWithin_eq centuries cycles (show day % 36524 % 1461 ≤ 1460 by omega) (by omega)
    rw [← split] at found
    rw [found, daysBefore_eq cycles (Nat.min_le_left 3 _)]
    omega

end Years

/-! ## Months -/

/-- The month of a year that begins in March in which one of its days lies. -/
def monthWithin (day : Nat) : Nat := (5 * day + 2) / 153

/-- The number that a month has in a year that begins in January. -/
def numbered (month : Nat) : Nat := if month < 10 then month + 3 else month - 9

/-- A day of a year lies in the month that is found for it. -/
theorem monthWithin_spec {day : Nat} (inside : day ≤ 365) :
    monthWithin day ≤ 11 ∧ (153 * monthWithin day + 2) / 5 ≤ day ∧
      day < (153 * monthWithin day + 2) / 5 + 31 := by
  unfold monthWithin
  omega

theorem numbered_spec {month : Nat} (inside : month ≤ 11) :
    1 ≤ numbered month ∧ numbered month ≤ 12 ∧ (numbered month + 9) % 12 = month ∧
      (numbered month ≤ 2 ↔ 10 ≤ month) := by
  unfold numbered
  split <;> omega

/-! ## Dates -/

section Dates

variable (days : Int)

/-- The cycle of four hundred years in which a day lies. -/
def cycleOf : Int := (days + 719468) / 146097

/-- The day of its cycle that a day is. -/
def dayOfCycle : Nat := ((days + 719468) % 146097).toNat

/-- The day of its year that a day is, where years begin in March. -/
def dayOfYear : Nat := dayOfCycle days - daysBefore (yearWithin (dayOfCycle days))

theorem ofDays_year : (ofDays days).year = yearWithin (dayOfCycle days) + cycleOf days * 400
    + (if numbered (monthWithin (dayOfYear days)) ≤ 2 then 1 else 0) := rfl

theorem ofDays_month : (ofDays days).month = numbered (monthWithin (dayOfYear days)) := rfl

theorem ofDays_day : (ofDays days).day
    = dayOfYear days - (153 * monthWithin (dayOfYear days) + 2) / 5 + 1 := rfl

theorem dayOfCycle_spec : dayOfCycle days < 146097 ∧
    cycleOf days * 146097 + dayOfCycle days = days + 719468 := by
  unfold dayOfCycle cycleOf
  omega

theorem dayOfYear_spec : dayOfYear days ≤ 365 ∧
    daysBefore (yearWithin (dayOfCycle days)) + dayOfYear days = dayOfCycle days := by
  obtain ⟨_, first, last⟩ := daysBefore_yearWithin (dayOfCycle_spec days).1
  unfold dayOfYear
  omega

theorem ofDays_month_bounds : 1 ≤ (ofDays days).month ∧ (ofDays days).month ≤ 12 := by
  obtain ⟨inside, _⟩ := monthWithin_spec (dayOfYear_spec days).1
  obtain ⟨first, last, _⟩ := numbered_spec inside
  rw [ofDays_month]
  exact ⟨first, last⟩

theorem ofDays_day_bounds : 1 ≤ (ofDays days).day ∧ (ofDays days).day ≤ 31 := by
  obtain ⟨_, first, last⟩ := monthWithin_spec (dayOfYear_spec days).1
  rw [ofDays_day]
  omega

/-- The date of a day is counted back as that day. -/
theorem toDays_ofDays : (ofDays days).toDays = days := by
  obtain ⟨yearInside, cycled⟩ := dayOfCycle_spec days
  obtain ⟨fewYears, _⟩ := daysBefore_yearWithin yearInside
  obtain ⟨dayInside, counted⟩ := dayOfYear_spec days
  obtain ⟨monthInside, first, _⟩ := monthWithin_spec dayInside
  obtain ⟨_, _, back, early⟩ := numbered_spec monthInside
  -- January and February belong to the year before, as it is counted here
  have year : (if (ofDays days).month ≤ 2 then (ofDays days).year - 1 else (ofDays days).year)
      = yearWithin (dayOfCycle days) + cycleOf days * 400 := by
    rw [ofDays_month, ofDays_year]
    split <;> omega
  have yearOfCycle : ((yearWithin (dayOfCycle days) + cycleOf days * 400) % 400).toNat
      = yearWithin (dayOfCycle days) := by omega
  have cycle : (yearWithin (dayOfCycle days) + cycleOf days * 400) / 400 = cycleOf days := by omega
  simp only [toDays, year, yearOfCycle, cycle]
  rw [ofDays_month, back, ofDays_day]
  unfold daysBefore at counted
  omega

/-- The days from the first to the last that a year of at most four digits has are those of the years
    1 to 9999. -/
theorem ofDays_year_bounds (first : -719162 ≤ days) (last : days ≤ 2932896) :
    1 ≤ (ofDays days).year ∧ (ofDays days).year ≤ 9999 := by
  obtain ⟨yearInside, cycled⟩ := dayOfCycle_spec days
  obtain ⟨fewYears, _⟩ := daysBefore_yearWithin yearInside
  obtain ⟨dayInside, counted⟩ := dayOfYear_spec days
  obtain ⟨monthInside, _⟩ := monthWithin_spec dayInside
  obtain ⟨_, _, _, early⟩ := numbered_spec monthInside
  rw [ofDays_year]
  unfold daysBefore at counted
  unfold monthWithin at early monthInside ⊢
  split <;> omega

end Dates

end ContainerWatch.Date
