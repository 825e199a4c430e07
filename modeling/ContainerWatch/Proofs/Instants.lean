import ContainerWatch.Instant
import ContainerWatch.Proofs.Calendar
import ContainerWatch.Proofs.Json.Digits

/-!
# Instants that are read back

The standard text of an instant has its parts in fixed columns, with the fraction of the second behind
them if there is one.  So the instant is found from its text.
-/

namespace ContainerWatch.Instant

open Json Text

/-- The number that is written in some columns of a text. -/
def column (text : List Char) (first width : Nat) : Nat := naturalOf ((text.drop first).take width)

/-- The microseconds since the start of 1970 that a standard text writes. -/
def microsOf (text : List Char) : Int :=
  let day := Date.toDays ⟨column text 0 4, column text 5 2, column text 8 2⟩
  let second := (column text 11 2 * 60 + column text 14 2) * 60 + column text 17 2
  let microsecond := if text[19]? = some '.' then column text 20 6 else 0
  (day * 86400 + second) * 1000000 + microsecond

/-- The instant that a standard text writes. -/
def read? (text : String) : Option Instant :=
  let micros := microsOf text.toList
  if inside : -62135596800000000 ≤ micros ∧ micros ≤ 253402300799999999 then
    some ⟨micros, inside.1, inside.2⟩
  else
    none

variable (instant : Instant)

/-- The instant at a number of microseconds is the one that has them, if there is one. -/
theorem ofMicros_eq_ok_iff {micros : Int} {instant : Instant} :
    ofMicros micros = .ok instant ↔ instant.micros = micros := by
  have limit : clockLimit = 9223372036854775808 := rfl
  have first := instant.first_le
  have last := instant.le_last
  simp only [ofMicros, limit]
  constructor
  · intro found
    split at found
    case isTrue => cases found
    case isFalse =>
      split at found
      case isTrue => cases found; rfl
      case isFalse => split at found <;> cases found
  · rintro rfl
    rw [if_neg (by omega), dif_pos ⟨first, last⟩]

/-! ## The columns -/

theorem column_year :
    column (instant.stamp 'T') 0 4 = naturalOf (fixedDigits 10 4 instant.date.year.toNat) := rfl

theorem column_month : column (instant.stamp 'T') 5 2 = naturalOf (two instant.date.month) := rfl

theorem column_day : column (instant.stamp 'T') 8 2 = naturalOf (two instant.date.day) := rfl

theorem column_hour : column (instant.stamp 'T') 11 2 = naturalOf (two instant.hour) := rfl

theorem column_minute : column (instant.stamp 'T') 14 2 = naturalOf (two instant.minute) := rfl

theorem column_second : column (instant.stamp 'T') 17 2 = naturalOf (two instant.second) := rfl

theorem column_microsecond :
    (if (instant.stamp 'T')[19]? = some '.' then column (instant.stamp 'T') 20 6 else 0)
      = instant.microsecond := by
  have small : instant.microsecond < 10 ^ 6 := Nat.mod_lt _ (by decide)
  by_cases whole : instant.microsecond = 0
  · have plus : (instant.stamp 'T')[19]? = some '+' := by
      simp only [stamp, fractionText, whole]
      rfl
    simp [plus, whole]
  · have point : (instant.stamp 'T')[19]? = some '.' := by
      simp only [stamp, fractionText, whole]
      rfl
    have digits : column (instant.stamp 'T') 20 6
        = naturalOf (fixedDigits 10 6 instant.microsecond) := by
      simp only [stamp, fractionText, whole]
      rfl
    rw [if_pos point, digits, naturalOf_fixedDigits, Nat.mod_eq_of_lt small]

theorem naturalOf_two {n : Nat} (small : n < 100) : naturalOf (two n) = n := by
  rw [two, naturalOf_fixedDigits]
  exact Nat.mod_eq_of_lt small

/-! ## The instant -/

theorem date_year_bounds : 1 ≤ instant.date.year ∧ instant.date.year ≤ 9999 := by
  have first := instant.first_le
  have last := instant.le_last
  exact Date.ofDays_year_bounds _ (by omega) (by omega)

theorem date_columns :
    Date.toDays ⟨column (instant.stamp 'T') 0 4, column (instant.stamp 'T') 5 2,
      column (instant.stamp 'T') 8 2⟩ = instant.micros / 86400000000 := by
  obtain ⟨firstYear, lastYear⟩ := instant.date_year_bounds
  obtain ⟨_, lastMonth⟩ : _ ∧ instant.date.month ≤ 12 := Date.ofDays_month_bounds _
  obtain ⟨_, lastDay⟩ : _ ∧ instant.date.day ≤ 31 := Date.ofDays_day_bounds _
  have year : ((naturalOf (fixedDigits 10 4 instant.date.year.toNat) : Nat) : Int)
      = instant.date.year := by
    rw [naturalOf_fixedDigits, Nat.mod_eq_of_lt (by omega)]
    omega
  rw [column_year, column_month, column_day, year, naturalOf_two (by omega),
    naturalOf_two (by omega)]
  exact Date.toDays_ofDays _

theorem time_columns :
    (column (instant.stamp 'T') 11 2 * 60 + column (instant.stamp 'T') 14 2) * 60
      + column (instant.stamp 'T') 17 2 = instant.microOfDay / 1000000 := by
  have inside : instant.microOfDay < 86400000000 := by
    unfold microOfDay
    omega
  have hours : instant.hour < 24 := by
    unfold hour
    omega
  have minutes : instant.minute < 60 := Nat.mod_lt _ (by decide)
  have seconds : instant.second < 60 := Nat.mod_lt _ (by decide)
  rw [column_hour, column_minute, column_second, naturalOf_two (by omega),
    naturalOf_two (by omega), naturalOf_two (by omega)]
  unfold hour minute second
  omega

/-- The columns of the standard text of an instant write its microseconds. -/
theorem microsOf_stamp : microsOf (instant.stamp 'T') = instant.micros := by
  simp only [microsOf]
  rw [date_columns, time_columns, column_microsecond]
  unfold microsecond microOfDay
  omega

theorem read?_iso : read? instant.iso = some instant := by
  have inside := And.intro instant.first_le instant.le_last
  simp only [read?, iso, String.toList_ofList, microsOf_stamp]
  rw [dif_pos inside]

end ContainerWatch.Instant
