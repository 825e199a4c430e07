import ContainerWatch.Binary64.Basic
import ContainerWatch.Calendar
import ContainerWatch.Text.Digits

/-!
# Instants

Points of time in Coordinated Universal Time, counted in microseconds from the start of 1970, within
the years 1 to 9999.  They are read from whole seconds, from seconds in floating point and from
nanoseconds, and written as dates with a time of day.
-/

namespace ContainerWatch

/-- A microsecond of the years 1 to 9999, counted from the start of 1970. -/
structure Instant where
  micros : Int
  first_le : -62135596800000000 ≤ micros
  le_last : micros ≤ 253402300799999999
  deriving DecidableEq

namespace Instant

/-- Why a number of seconds is no instant. -/
inductive Error where
  /-- The number is NaN. -/
  | notANumber
  /-- The number of nanoseconds has no floating-point neighbour. -/
  | beyondFloat
  /-- The number of seconds does not fit 64 bits. -/
  | beyondClock
  /-- The year, counted from 1900, does not fit 32 bits. -/
  | beyondCalendar
  /-- The year is none of 1 to 9999. -/
  | yearOutOfRange (year : Int)
  deriving DecidableEq, Repr

/-- The start of 1970. -/
def epoch : Instant := ⟨0, by decide, by decide⟩

instance : Inhabited Instant := ⟨epoch⟩

/-- The calendar year of a number of microseconds. -/
def yearOf (micros : Int) : Int := (Date.ofDays (micros / 86400000000)).year

/-- The clock counts seconds in 64 bits, so that their number is below this and at least its
    negative. -/
def clockLimit : Int := Nat.pow 2 63

/-- Years are counted from 1900 in 32 bits. -/
def yearLimit : Int := Nat.pow 2 31

/-- The instant at a number of microseconds.  Far beyond the calendar a year is named by its
    representative among the 32-bit integers. -/
def ofMicros (micros : Int) : Except Error Instant :=
  let seconds := micros / 1000000
  if seconds < -clockLimit ∨ clockLimit ≤ seconds then
    .error .beyondClock
  else if h : -62135596800000000 ≤ micros ∧ micros ≤ 253402300799999999 then
    .ok ⟨micros, h.1, h.2⟩
  else
    let year := yearOf micros
    if year - 1900 < -yearLimit ∨ yearLimit ≤ year - 1900 then
      .error .beyondCalendar
    else
      .error (.yearOutOfRange (year.bmod (2 * yearLimit.toNat)))

/-- The instant at a whole number of seconds. -/
def ofSeconds (seconds : Int) : Except Error Instant := ofMicros (seconds * 1000000)

/-- The instant at a number of seconds: the fractional part is taken in microseconds and rounded to
    the nearest one, on a tie to the even one. -/
def ofFloat (seconds : Binary64) : Except Error Instant :=
  match seconds with
  | .nan => .error .notANumber
  | .infinite _ => .error .beyondClock
  | .finite negative mantissa exponent =>
      let x := Binary64.finite negative mantissa exponent
      let whole := x.truncate?.getD 0
      let rest := match (x.fraction.mulNat 1000000).ratio? with
        | some (n, d) => roundHalfEvenInt n d
        | none => 0
      ofMicros (whole * 1000000 + rest)

/-- The instant at a number of nanoseconds, which is first taken to seconds in floating point. -/
def ofNanoseconds (nanoseconds : Int) : Except Error Instant :=
  let x := Binary64.ofInt nanoseconds
  if x.isFinite then ofFloat (x.divNat 1000000000) else .error .beyondFloat

def date (instant : Instant) : Date := Date.ofDays (instant.micros / 86400000000)

/-- The microseconds since the start of the day. -/
def microOfDay (instant : Instant) : Nat := (instant.micros % 86400000000).toNat

def hour (instant : Instant) : Nat := instant.microOfDay / 3600000000

def minute (instant : Instant) : Nat := instant.microOfDay / 60000000 % 60

def second (instant : Instant) : Nat := instant.microOfDay / 1000000 % 60

def microsecond (instant : Instant) : Nat := instant.microOfDay % 1000000

/-- A number in two digits. -/
def two (n : Nat) : List Char := Text.fixedDigits 10 2 n

/-- Month and day, a separator and the time of day in whole seconds. -/
def fromMonth (separator : Char) (instant : Instant) : List Char :=
  two instant.date.month ++ '-' :: two instant.date.day ++ separator ::
    two instant.hour ++ ':' :: two instant.minute ++ ':' :: two instant.second

/-- The fraction of the second, if there is one. -/
def fractionText (instant : Instant) : List Char :=
  if instant.microsecond = 0 then [] else '.' :: Text.fixedDigits 10 6 instant.microsecond

/-- Date and time of day in UTC with a separator between them. -/
def stamp (separator : Char) (instant : Instant) : List Char :=
  Text.fixedDigits 10 4 instant.date.year.toNat ++ '-' :: instant.fromMonth separator
    ++ instant.fractionText ++ "+00:00".toList

/-- The standard text of an instant, with a `T` between date and time. -/
def iso (instant : Instant) : String := String.ofList (instant.stamp 'T')

/-- The text of an instant with a space between date and time. -/
def spaced (instant : Instant) : String := String.ofList (instant.stamp ' ')

/-- Date and time in whole seconds for a reader at a terminal; the year has no leading zeros. -/
def clock (instant : Instant) : String :=
  String.ofList
    (Text.decimal instant.date.year.toNat ++ '-' :: instant.fromMonth ' ')

/-- The form of an instant inside other values: its parts, without zero seconds and microseconds at
    the end. -/
def quoted (instant : Instant) : String :=
  let date := instant.date
  let tail :=
    if instant.microsecond ≠ 0 then [instant.second, instant.microsecond]
    else if instant.second ≠ 0 then [instant.second]
    else []
  let parts := [date.year.toNat, date.month, date.day, instant.hour, instant.minute] ++ tail
  "datetime.datetime(" ++ String.intercalate ", " (parts.map fun n => String.ofList (Text.decimal n))
    ++ ", tzinfo=datetime.timezone.utc)"

/-- A half microsecond goes to the even neighbour. -/
example : (ofFloat (.ofRatio false 5 2000000)).toOption.map (·.micros) = some 2 := by decide

end Instant

end ContainerWatch
