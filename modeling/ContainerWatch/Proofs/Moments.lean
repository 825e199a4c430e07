import ContainerWatch.Proofs.Calendar.Count
import ContainerWatch.Proofs.Instants

/-!
# Moments

A moment is a date with a time of day in whole seconds.  Its text has the parts in fixed columns, the
greater ones in front, so that a moment is read back from its text, and the texts of moments stand in
the order of their seconds.  The standard text of an instant on a whole second is that of a moment.
-/

namespace ContainerWatch

open Json Text

/-! ## Columns in order -/

theorem digitChar_lt {d e : Nat} (less : d < e) (small : e < 10) : digitChar d < digitChar e := by
  apply Char.lt_def.mpr
  show (digitChar d).toNat < (digitChar e).toNat
  rw [toNat_digitChar (less.trans small), toNat_digitChar small]
  omega

/-- Numbers in a column stand in their order, whatever is behind them. -/
theorem fixedDigits_append_lt {width n m : Nat} (less : n < m) (small : m < 10 ^ width)
    (rest rest' : List Char) :
    fixedDigits 10 width n ++ rest < fixedDigits 10 width m ++ rest' := by
  induction width generalizing n m rest rest' with
  | zero =>
      rw [pow_zero] at small
      omega
  | succ width ih =>
      rw [fixedDigits, fixedDigits, List.append_assoc, List.append_assoc]
      rcases Nat.lt_or_ge (n / 10) (m / 10) with front | front
      · apply ih front
        rw [pow_succ] at small
        omega
      · rw [show n / 10 = m / 10 by omega]
        apply List.append_left_lt
        rw [List.singleton_append, List.singleton_append]
        exact List.cons_lt_cons_iff.mpr (.inl (digitChar_lt (by omega) (by omega)))

/-- A column decides which text is first, or what is behind it does. -/
theorem column_lt {width n m : Nat} {rest rest' : List Char} (small : m < 10 ^ width)
    (less : n < m ∨ n = m ∧ rest < rest') :
    fixedDigits 10 width n ++ rest < fixedDigits 10 width m ++ rest' := by
  rcases less with number | ⟨rfl, behind⟩
  · exact fixedDigits_append_lt number small rest rest'
  · exact List.append_left_lt behind

/-! ## Moments -/

/-- A date with a time of day in whole seconds. -/
structure Moment where
  date : Date
  hour : Nat
  minute : Nat
  second : Nat

namespace Moment

open Instant

variable {moment first last : Moment}

/-- A moment of the calendar in a year of four digits. -/
structure Exists (moment : Moment) : Prop where
  date : moment.date.Exists
  year : moment.date.year ≤ 9999
  hour : moment.hour < 24
  minute : moment.minute < 60
  second : moment.second < 60

def ofDay (moment : Moment) : Nat := (moment.hour * 60 + moment.minute) * 60 + moment.second

/-- The seconds from the start of 1970 to a moment: the days by the rule of leap years, and the time
    of day. -/
def seconds (moment : Moment) : Int := moment.date.dayNumber * 86400 + moment.ofDay

/-- A date in its columns, with something behind it. -/
def dateChars (date : Date) (rest : List Char) : List Char :=
  fixedDigits 10 4 date.year.toNat ++ '-' :: (two date.month ++ '-' :: (two date.day ++ rest))

/-- A time of day in its columns, with the offset of Coordinated Universal Time behind it. -/
def clockChars (moment : Moment) : List Char :=
  two moment.hour ++ ':' :: (two moment.minute ++ ':' :: (two moment.second ++ "+00:00".toList))

/-- Date and time of day in their columns. -/
def chars (moment : Moment) : List Char := dateChars moment.date ('T' :: moment.clockChars)

def text (moment : Moment) : String := String.ofList moment.chars

/-- The moment that the columns of a text write. -/
def ofText (text : String) : Moment where
  date := ⟨column text.toList 0 4, column text.toList 5 2, column text.toList 8 2⟩
  hour := column text.toList 11 2
  minute := column text.toList 14 2
  second := column text.toList 17 2

theorem Exists.two_digits (existing : moment.Exists) :
    moment.date.month < 100 ∧ moment.date.day < 100 := by
  obtain ⟨-, -, month, -, day⟩ := existing.date
  have most : Date.daysInMonth moment.date.year moment.date.month ≤ 31 := by
    unfold Date.daysInMonth
    split_ifs <;> omega
  omega

theorem ofText_text (existing : moment.Exists) : ofText moment.text = moment := by
  obtain ⟨months, days⟩ := existing.two_digits
  obtain ⟨⟨firstYear, -⟩, lastYear, hours, minutes, seconds⟩ := existing
  have year : ((column moment.chars 0 4 : Nat) : Int) = moment.date.year := by
    change ((naturalOf (fixedDigits 10 4 moment.date.year.toNat) : Nat) : Int) = _
    rw [naturalOf_fixedDigits, Nat.mod_eq_of_lt (by omega)]
    omega
  have month : column moment.chars 5 2 = moment.date.month := naturalOf_two months
  have day : column moment.chars 8 2 = moment.date.day := naturalOf_two days
  have hour : column moment.chars 11 2 = moment.hour := naturalOf_two (by omega)
  have minute : column moment.chars 14 2 = moment.minute := naturalOf_two (by omega)
  have second : column moment.chars 17 2 = moment.second := naturalOf_two (by omega)
  rw [ofText, text, String.toList_ofList, year, month, day, hour, minute, second]

theorem Exists.ofDay_lt (existing : moment.Exists) : moment.ofDay < 86400 := by
  obtain ⟨-, -, hours, minutes, seconds⟩ := existing
  unfold ofDay
  omega

theorem dateChars_lt (existing : first.Exists) (existing' : last.Exists)
    (before : first.date.Before last.date) (rest rest' : List Char) :
    dateChars first.date rest < dateChars last.date rest' := by
  obtain ⟨months, days⟩ := existing'.two_digits
  have firstYear := existing.date.1
  have lastYear := existing'.year
  apply column_lt (by omega)
  rcases before with year | ⟨year, before⟩
  · left
    omega
  · right
    refine ⟨by rw [year], List.cons_lt_cons_self.mpr (column_lt months ?_)⟩
    rcases before with month | ⟨month, day⟩
    · exact .inl month
    · exact .inr ⟨month, List.cons_lt_cons_self.mpr (column_lt days (.inl day))⟩

theorem clockChars_lt (existing : first.Exists) (existing' : last.Exists)
    (less : first.ofDay < last.ofDay) : first.clockChars < last.clockChars := by
  obtain ⟨-, -, hours, minutes, seconds⟩ := existing
  obtain ⟨-, -, hours', minutes', seconds'⟩ := existing'
  have order : first.hour < last.hour ∨ first.hour = last.hour ∧
      (first.minute < last.minute ∨ first.minute = last.minute ∧ first.second < last.second) := by
    unfold ofDay at less
    omega
  apply column_lt (by omega)
  rcases order with hour | ⟨hour, order⟩
  · exact .inl hour
  · refine .inr ⟨hour, List.cons_lt_cons_self.mpr (column_lt (by omega) ?_)⟩
    rcases order with minute | ⟨minute, second⟩
    · exact .inl minute
    · exact .inr ⟨minute, List.cons_lt_cons_self.mpr (column_lt (by omega) (.inl second))⟩

/-- The texts of moments stand in the order of their seconds. -/
theorem text_lt_of_seconds_lt (existing : first.Exists) (existing' : last.Exists)
    (less : first.seconds < last.seconds) : first.text < last.text := by
  have within := existing.ofDay_lt
  have within' := existing'.ofDay_lt
  have days : first.date.dayNumber ≤ last.date.dayNumber := by
    unfold seconds at less
    omega
  show first.text.toList < last.text.toList
  rw [text, text, String.toList_ofList, String.toList_ofList, chars, chars]
  -- The date decides, or the dates are the same and the time of day decides.
  rcases Date.before_or_eq_of_dayNumber_le existing'.date days with before | same
  · exact dateChars_lt existing existing' before _ _
  · have clock : first.ofDay < last.ofDay := by
      unfold seconds at less
      rw [same] at less
      omega
    rw [same, dateChars, dateChars]
    apply List.append_left_lt
    apply List.cons_lt_cons_self.mpr
    apply List.append_left_lt
    apply List.cons_lt_cons_self.mpr
    apply List.append_left_lt
    apply List.cons_lt_cons_self.mpr
    exact clockChars_lt existing existing' clock

/-! ## Instants on whole seconds -/

/-- The moment of an instant: its date and its time of day, without the fraction of the second. -/
def ofInstant (instant : Instant) : Moment where
  date := instant.date
  hour := instant.hour
  minute := instant.minute
  second := instant.second

theorem exists_ofInstant (instant : Instant) : (ofInstant instant).Exists := by
  obtain ⟨firstYear, lastYear⟩ := instant.date_year_bounds
  have inside : instant.microOfDay < 86400000000 := by
    unfold microOfDay
    omega
  refine ⟨⟨firstYear, Date.ofDays_valid _⟩, lastYear, ?_, ?_, ?_⟩
  · show instant.microOfDay / 3600000000 < 24
    omega
  · exact Nat.mod_lt _ (by decide)
  · exact Nat.mod_lt _ (by decide)

theorem seconds_ofInstant (instant : Instant) :
    (ofInstant instant).seconds = instant.micros / 1000000 := by
  have days : (ofInstant instant).date.dayNumber = instant.micros / 86400000000 :=
    Date.dayNumber_ofDays instant.date_year_bounds.1
  rw [seconds, days, ofDay, ofInstant]
  simp only [Instant.hour, Instant.minute, Instant.second, microOfDay]
  omega

theorem iso_of_whole {instant : Instant} (whole : instant.micros % 1000000 = 0) :
    instant.iso = (ofInstant instant).text := by
  have noFraction : instant.fractionText = [] := by
    rw [fractionText, if_pos]
    unfold microsecond microOfDay
    omega
  rw [iso, stamp, noFraction, text, chars, clockChars, dateChars, fromMonth]
  simp [ofInstant]

end Moment

end ContainerWatch
