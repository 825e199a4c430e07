/-!
# Written numbers

Natural numbers as digits of a base up to sixteen, in the fewest digits or in a fixed number of
them, and the padding of a text to a width.
-/

namespace ContainerWatch.Text

/-- The digits up to fifteen, in lower case. -/
def digitChar (value : Nat) : Char :=
  Char.ofNat (if value < 10 then 48 + value else 87 + value)

/-- The last `width` digits of a number. -/
def fixedDigits (base : Nat) : Nat → Nat → List Char
  | 0, _ => []
  | width + 1, n => fixedDigits base width (n / base) ++ [digitChar (n % base)]

/-- The digits of a number, without leading zeros. -/
def digits (base n : Nat) : List Char :=
  if h : n < base ∨ base < 2 then
    [digitChar n]
  else
    have : n / base < n := Nat.div_lt_self (by omega) (by omega)
    digits base (n / base) ++ [digitChar (n % base)]
termination_by n

/-- Fill characters in front of a text that is shorter than a width. -/
def padLeft (fill : Char) (width : Nat) (text : List Char) : List Char :=
  List.replicate (width - text.length) fill ++ text

/-- Fill characters behind a text that is shorter than a width. -/
def padRight (fill : Char) (width : Nat) (text : List Char) : List Char :=
  text ++ List.replicate (width - text.length) fill

/-- A number in decimal digits. -/
def decimal (n : Nat) : List Char := digits 10 n

/-- A signed number in decimal digits. -/
def signedDecimal (n : Int) : List Char :=
  if n < 0 then '-' :: decimal n.natAbs else decimal n.natAbs

@[simp] theorem length_fixedDigits (base width n : Nat) :
    (fixedDigits base width n).length = width := by
  induction width generalizing n with
  | zero => rfl
  | succ width ih => simp [fixedDigits, ih]

@[simp] theorem length_padLeft (fill : Char) (width : Nat) (text : List Char) :
    (padLeft fill width text).length = max width text.length := by
  simp [padLeft]; omega

end ContainerWatch.Text
