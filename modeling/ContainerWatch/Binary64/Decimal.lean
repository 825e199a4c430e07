import ContainerWatch.Binary64.Basic
import ContainerWatch.Text.Digits

/-!
# Decimal texts of binary numbers

The shortest decimal text that reads back as the same number, and the texts with a fixed number of
decimal places or of significant digits, which round the exact value half to even.
-/

namespace ContainerWatch.Binary64

/-- Decimal digits and the power of ten of their last one. -/
structure Decimal where
  digits : Nat
  power : Int
  deriving DecidableEq, Repr

/-- The exponent of the greatest power of ten that is at most `num / den`, for a positive ratio. -/
def decimalLog (num den : Nat) : Int :=
  let guess : Int := ((Text.decimal num).length : Int) - (Text.decimal den).length
  let reached := if 0 ≤ guess then den * Nat.pow 10 guess.toNat ≤ num
    else den ≤ num * Nat.pow 10 (-guess).toNat
  if reached then guess else guess - 1

/-- The ratio `num / den * 10 ^ (-power)` as numerator and denominator. -/
def decimallyScaled (num den : Nat) (power : Int) : Nat × Nat :=
  if 0 ≤ power then (num, den * Nat.pow 10 power.toNat)
  else (num * Nat.pow 10 (-power).toNat, den)

/-- The neighbours of `num / den` on the grid of multiples of `10 ^ power`, the nearer one first
    and on a tie the even one. -/
def neighbours (num den : Nat) (power : Int) : List Decimal :=
  let (n, d) := decimallyScaled num den power
  let nearest := roundHalfEven n d
  let below := n / d
  let other := if nearest = below then below + 1 else below
  [⟨nearest, power⟩, ⟨other, power⟩]

/-- Whether decimal digits read back as a finite positive number. -/
def readsBack (mantissa : Nat) (exponent : Int) (decimal : Decimal) : Bool :=
  ofDecimal false decimal.digits decimal.power == finite false mantissa exponent

/-- The decimal of the fewest digits that reads back as a finite positive number, of several such
    the one nearest to it.  Seventeen digits always suffice. -/
def shortest (mantissa : Nat) (exponent : Int) : Decimal :=
  let (n, d) := magnitude mantissa exponent
  let top := decimalLog n d
  let candidates := (List.range 17).findSome? fun (count : Nat) =>
    (neighbours n d (top - count)).find? (readsBack mantissa exponent)
  candidates.getD ⟨roundHalfEven n d, 0⟩

/-- Digits with a decimal point behind the first `point` of them, zeros filling the gap on either
    side. -/
def positional (digits : List Char) (point : Int) : List Char :=
  if point ≤ 0 then
    '0' :: '.' :: List.replicate (-point).toNat '0' ++ digits
  else
    let count := point.toNat
    if digits.length ≤ count then
      digits ++ List.replicate (count - digits.length) '0' ++ ['.', '0']
    else
      digits.take count ++ '.' :: digits.drop count

/-- An exponent with its sign and at least two digits. -/
def exponentText (exponent : Int) : List Char :=
  (if exponent < 0 then '-' else '+') :: Text.padLeft '0' 2 (Text.decimal exponent.natAbs)

/-- Digits with a decimal point behind the first one, and an exponent. -/
def scientific (mark : Char) (digits : List Char) (exponent : Int) : List Char :=
  let body := match digits with
    | [] => []
    | [d] => [d]
    | d :: rest => d :: '.' :: rest
  body ++ mark :: exponentText exponent

/-- The digits of a natural without the zeros at its end. -/
def significant (n : Nat) : List Char :=
  ((Text.decimal n).reverse.dropWhile (· == '0')).reverse

/-- The shortest text of a finite positive number: positional from 1e-4 up to below 1e16, and with
    an exponent outside. -/
def shortestPositive (mantissa : Nat) (exponent : Int) : List Char :=
  let decimal := shortest mantissa exponent
  let all := Text.decimal decimal.digits
  let point := decimal.power + all.length
  let digits := significant decimal.digits
  if -4 < point ∧ point ≤ 16 then positional digits point else scientific 'e' digits (point - 1)

/-- The sign of a negative number, in front of the text of its size. -/
def signed (negative : Bool) (text : List Char) : List Char :=
  if negative then '-' :: text else text

/-- The shortest text of a number. -/
def shortestText : Binary64 → String
  | finite negative mantissa exponent =>
      let body := if mantissa = 0 then ['0', '.', '0'] else shortestPositive mantissa exponent
      String.ofList (signed negative body)
  | infinite negative => if negative then "-inf" else "inf"
  | nan => "nan"

/-- No number of the format has more decimal places or more significant digits than this one.  The
    least power of two has 1074 places, and all others are its multiples. -/
def digitLimit : Nat := 1100

/-- The ratio `num / den` with a fixed number of decimal places; the point is kept without places
    on demand. -/
def fixedPlaces (places : Nat) (keepPoint : Bool) (num den : Nat) : List Char :=
  let own := min places digitLimit
  let scaled := roundHalfEven (num * Nat.pow 10 own) den
  let all := Text.padLeft '0' (own + 1) (Text.decimal scaled)
  let whole := all.take (all.length - own)
  let fraction := Text.padRight '0' places (all.drop (all.length - own))
  whole ++ (if places = 0 ∧ !keepPoint then [] else ['.']) ++ fraction

/-- The ratio `num / den` rounded to a number of significant digits: the digits and the decimal
    exponent of the first one. -/
def rounded (count : Nat) (num den : Nat) : List Char × Int :=
  if num = 0 then
    (List.replicate count '0', 0)
  else
    let top := decimalLog num den
    let own := min count digitLimit
    let (n, d) := decimallyScaled num den (top - own + 1)
    let all := Text.decimal (roundHalfEven n d)
    let padded (digits : List Char) : List Char := Text.padRight '0' count digits
    if own < all.length then (padded (all.take own), top + 1) else (padded all, top)

/-- The ratio `num / den` with an exponent and a fixed number of decimal places. -/
def fixedScientific (mark : Char) (places : Nat) (keepPoint : Bool) (num den : Nat) : List Char :=
  let (digits, exponent) := rounded (places + 1) num den
  let body := match digits with
    | [] => []
    | d :: rest => d :: (if rest.isEmpty ∧ !keepPoint then [] else '.' :: rest)
  body ++ mark :: exponentText exponent

/-- The ratio `num / den` in a number of significant digits, positional where its decimal exponent
    is at least -4 and below that number.  Zeros at the end are dropped unless they are asked for. -/
def general (mark : Char) (precision : Nat) (keepZeros : Bool) (num den : Nat) : List Char :=
  let count := max precision 1
  let (digits, exponent) := rounded count num den
  let kept := if keepZeros then digits else (digits.reverse.dropWhile (· == '0')).reverse
  let kept := if kept.isEmpty then ['0'] else kept
  if -4 ≤ exponent ∧ exponent < count then
    if exponent < 0 then
      '0' :: '.' :: List.replicate (-exponent - 1).toNat '0' ++ kept
    else
      let point := exponent.toNat + 1
      let whole := Text.padRight '0' point (kept.take point)
      let rest := kept.drop point
      whole ++ (if rest.isEmpty ∧ !keepZeros then [] else '.' :: rest)
  else
    let body := match kept with
      | [] => []
      | d :: rest => d :: (if rest.isEmpty ∧ !keepZeros then [] else '.' :: rest)
    body ++ mark :: exponentText exponent

end ContainerWatch.Binary64
