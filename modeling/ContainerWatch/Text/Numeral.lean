import ContainerWatch.Text.Digits
import ContainerWatch.Text.Pieces
import ContainerWatch.Unicode.Digit
import ContainerWatch.Unicode.Space

/-!
# Reading whole numbers

A numeral is a run of decimal digits of any script in which single underscores may stand between
two digits, with a sign in front and white space around it.
-/

namespace ContainerWatch.Text

/-- The digit values of a numeral without sign: digits, with single underscores between them. -/
def numeralDigits? : List Char → Option (List Nat)
  | [] => none
  | [c] => (Unicode.digitValue? c).map fun value => [value]
  | c :: '_' :: rest =>
      match Unicode.digitValue? c, numeralDigits? rest with
      | some value, some values => some (value :: values)
      | _, _ => none
  | c :: rest =>
      match Unicode.digitValue? c, numeralDigits? rest with
      | some value, some values => some (value :: values)
      | _, _ => none

/-- The number that a list of decimal digits writes. -/
def ofDigits (values : List Nat) : Nat :=
  values.foldl (fun total value => 10 * total + value) 0

/-- The number of digits beyond which no numeral is read. -/
def numeralLimit : Nat := 4300

/-- Why a text is no number. -/
inductive NumeralError where
  | malformed
  | tooLong (digits : Nat)
  deriving DecidableEq, Repr

/-- That a numeral has too many digits, in words. -/
def tooLongMessage (digits : Nat) : String :=
  "Exceeds the limit (" ++ String.ofList (decimal numeralLimit)
    ++ " digits) for integer string conversion: value has " ++ String.ofList (decimal digits)
    ++ " digits; use sys.set_int_max_str_digits() to increase the limit"

/-- The sign in front of a text and what follows it. -/
def splitSign : List Char → Bool × List Char
  | '-' :: rest => (true, rest)
  | '+' :: rest => (false, rest)
  | text => (false, text)

/-- Whether a character may stand in a numeral behind the sign. -/
def isNumeralChar (c : Char) : Bool := c == '_' || (Unicode.digitValue? c).isSome

/-- The number that a text writes.  A numeral that is too long is that also if something else follows
    it. -/
def readNumeral (text : List Char) : Except NumeralError Int :=
  let (negative, body) := splitSign (trimBy Unicode.isWhiteSpace text)
  match numeralDigits? (body.takeWhile isNumeralChar) with
  | none => .error .malformed
  | some values =>
      if numeralLimit < values.length then
        .error (.tooLong values.length)
      else if !body.all isNumeralChar then
        .error .malformed
      else
        let size : Int := ofDigits values
        .ok (if negative then -size else size)

end ContainerWatch.Text
