import ContainerWatch.Text.Numeral
import ContainerWatch.Text.Pieces
import ContainerWatch.Unicode.Space

/-!
# Numbers in the environment

A plain number is a run of ASCII digits, with a minus in front if it is negative.  A text that is no
plain number is read leniently: white space around it, a plus, leading zeros, underscores between the
digits and a fraction of zeros are taken away, and what is left has to be a plain number.
-/

namespace ContainerWatch.Configuration

/-- What is wrong with a number in the environment. -/
inductive NumberFlaw where
  | malformed
  | tooLong
  deriving DecidableEq, Repr

namespace NumberFlaw

/-- The name of a flaw. -/
def name : NumberFlaw → String
  | malformed => "int_parsing"
  | tooLong => "int_parsing_size"

/-- A flaw in words. -/
def message : NumberFlaw → String
  | malformed => "Input should be a valid integer, unable to parse string as an integer"
  | tooLong => "Unable to parse input string as an integer, exceeded maximum size"

end NumberFlaw

/-- The number of characters beyond which a plain number is too long. -/
def lengthLimit : Nat := 4300

/-- The number that ASCII digits write. -/
def ofAsciiDigits (digits : List Char) : Nat :=
  Text.ofDigits (digits.map fun c => c.toNat - '0'.toNat)

/-- Whether digits begin with a zero that is not all of them. -/
def hasLeadingZero (digits : List Char) : Bool := digits.head? == some '0' && 1 < digits.length

/-- The number of a plain text.  Only behind a minus there may be leading zeros.  A number that is too
    long is that also if something else follows it. -/
def readPlain (text : List Char) : Except NumberFlaw Int :=
  let (negative, body) := match text with
    | '-' :: rest => (true, rest)
    | text => (false, text)
  let digits := body.takeWhile Char.isDigit
  if digits.isEmpty || (!negative && hasLeadingZero digits) then
    .error .malformed
  else if lengthLimit < (if negative then digits.length + 1 else digits.length) then
    .error .tooLong
  else if digits.length < body.length then
    .error .malformed
  else
    let size : Int := ofAsciiDigits digits
    .ok (if negative then -size else size)

/-- A text without the plus in front of it, which no minus may follow. -/
def withoutPlus? : List Char → Option (List Char)
  | '+' :: '-' :: _ => none
  | '+' :: rest => some rest
  | text => some text

/-- Whether a number without leading zeros begins with a character. -/
def beginsNumber (c : Char) : Bool := c == '-' || (c.isDigit && c != '0')

/-- What follows a zero without the zeros and underscores in front; of them the last is kept in front
    of a fraction and where nothing else is left. -/
def behindZeros? (last : Char) : List Char → Option (List Char)
  | [] => some [last]
  | c :: rest =>
      if c == '0' || c == '_' then behindZeros? c rest
      else if beginsNumber c then some (c :: rest)
      else if c == '.' then some (last :: c :: rest)
      else none

/-- A text without its leading zeros. -/
def withoutLeadingZeros? : List Char → Option (List Char)
  | [] => none
  | c :: rest =>
      if c == '0' then behindZeros? c rest
      else if beginsNumber c then some (c :: rest)
      else none

/-- A text without a fraction that consists of zeros. -/
def withoutZeroFraction (text : List Char) : List Char :=
  let whole := text.takeWhile (· ≠ '.')
  match text.drop whole.length with
  | '.' :: zeros => if !zeros.isEmpty && zeros.all (· == '0') then whole else text
  | _ => text

/-- A text without underscores, if each stands alone between two other characters. -/
def withoutUnderscores (text : List Char) : List Char :=
  let pieces := Text.piecesAt '_' text
  if pieces.any (·.isEmpty) then text else pieces.flatten

/-- What is left of a text that is read leniently. -/
def lenient? (text : List Char) : Option (List Char) := do
  let unsigned ← withoutPlus? (Text.trimBy Unicode.isWhiteSpace text)
  let bare ← withoutLeadingZeros? unsigned
  return withoutUnderscores (withoutZeroFraction bare)

/-- The number that a variable writes. -/
def readNumber (input : String) : Except NumberFlaw Int :=
  match readPlain input.toList with
  | .error .malformed =>
      match lenient? input.toList with
      | some text => readPlain text
      | none => .error .malformed
  | outcome => outcome

end ContainerWatch.Configuration
