/-!
# Numbers of 53 binary digits

The numbers of the 64-bit binary floating-point format, with exact rational arithmetic below them:
an operation computes its result as a ratio of two integers and rounds it once, to the nearest
number of the format and on a tie to the one with an even last digit.
-/

namespace ContainerWatch

/-- A number of the 64-bit format.  A finite one is `mantissa * 2 ^ exponent`, with a mantissa of
    at most 53 binary digits and an exponent of at least -1074. -/
inductive Binary64 where
  | finite (negative : Bool) (mantissa : Nat) (exponent : Int)
  | infinite (negative : Bool)
  | nan
  deriving DecidableEq, Repr, Inhabited

/-- The quotient of two naturals, rounded to the nearest natural and to the even one on a tie. -/
def roundHalfEven (num den : Nat) : Nat :=
  let quotient := num / den
  let twice := 2 * (num % den)
  if twice < den ∨ (twice = den ∧ quotient % 2 = 0) then quotient else quotient + 1

/-- The quotient of an integer and a natural, rounded to the nearest integer and to the even one on
    a tie. -/
def roundHalfEvenInt (num : Int) (den : Nat) : Int :=
  if num < 0 then -(roundHalfEven num.natAbs den : Int) else roundHalfEven num.natAbs den

/-- A rounded quotient is at most half a unit away from the exact one. -/
theorem two_mul_roundHalfEven (num : Nat) {den : Nat} (pos : 0 < den) :
    2 * (roundHalfEven num den * den) ≤ 2 * num + den ∧
      2 * num ≤ 2 * (roundHalfEven num den * den) + den := by
  have split := Nat.div_add_mod num den
  have rest := Nat.mod_lt num pos
  rw [Nat.mul_comm] at split
  simp only [roundHalfEven]
  split
  · omega
  · simp only [Nat.add_mul, Nat.one_mul]; omega

namespace Binary64

/-- The ratio `num / den * 2 ^ (-exponent)` as numerator and denominator. -/
def scaled (num den : Nat) (exponent : Int) : Nat × Nat :=
  if 0 ≤ exponent then (num, den * Nat.pow 2 exponent.toNat)
  else (num * Nat.pow 2 (-exponent).toNat, den)

/-- The exponent of the greatest power of two that is at most `num / den`. -/
def binaryLog (num den : Nat) : Int :=
  let guess : Int := (Nat.log2 num : Int) - Nat.log2 den
  let (n, d) := scaled num den guess
  if d ≤ n then guess else guess - 1

/-- The exponent at which `num / den` has 53 binary digits, or the least exponent there is. -/
def exponentFor (num den : Nat) : Int := max (binaryLog num den - 52) (-1074)

/-- A mantissa of at most `2 ^ 53` with its exponent; beyond the greatest exponent it is infinite. -/
def pack (negative : Bool) (mantissa : Nat) (exponent : Int) : Binary64 :=
  let (m, e) := if mantissa = Nat.pow 2 53 then (Nat.pow 2 52, exponent + 1)
    else (mantissa, exponent)
  if 971 < e then .infinite negative else .finite negative m e

/-- The number nearest to `num / den`, with a sign. -/
def ofRatio (negative : Bool) (num den : Nat) : Binary64 :=
  if num = 0 then
    .finite negative 0 (-1074)
  else
    let exponent := exponentFor num den
    let (n, d) := scaled num den exponent
    pack negative (roundHalfEven n d) exponent

/-- The number nearest to an integer. -/
def ofInt (n : Int) : Binary64 := ofRatio (n < 0) n.natAbs 1

/-- The number nearest to `digits * 10 ^ power`. -/
def ofDecimal (negative : Bool) (digits : Nat) (power : Int) : Binary64 :=
  if 0 ≤ power then ofRatio negative (digits * Nat.pow 10 power.toNat) 1
  else ofRatio negative digits (Nat.pow 10 (-power).toNat)

/-- The size of a finite number as a ratio. -/
def magnitude (mantissa : Nat) (exponent : Int) : Nat × Nat :=
  if 0 ≤ exponent then (mantissa * Nat.pow 2 exponent.toNat, 1)
  else (mantissa, Nat.pow 2 (-exponent).toNat)

/-- The exact value of a finite number as a ratio of an integer and a positive natural. -/
def ratio? : Binary64 → Option (Int × Nat)
  | finite negative mantissa exponent =>
      let (n, d) := magnitude mantissa exponent
      some (if negative then -(n : Int) else n, d)
  | _ => none

/-- Whether a number is neither infinite nor NaN. -/
def isFinite : Binary64 → Bool
  | finite .. => true
  | _ => false

/-- Whether a number is zero, of either sign. -/
def isZero : Binary64 → Bool
  | finite _ 0 _ => true
  | _ => false

/-- The sign bit; NaN counts as positive. -/
def isNegative : Binary64 → Bool
  | finite negative _ _ => negative
  | infinite negative => negative
  | nan => false

/-- The number divided by a positive natural. -/
def divNat (divisor : Nat) : Binary64 → Binary64
  | finite negative mantissa exponent =>
      let (n, d) := magnitude mantissa exponent
      ofRatio negative n (d * divisor)
  | x => x

/-- The number multiplied by a natural. -/
def mulNat (factor : Nat) : Binary64 → Binary64
  | finite negative mantissa exponent =>
      let (n, d) := magnitude mantissa exponent
      ofRatio negative (n * factor) d
  | x => x

/-- The integer part of a finite number, toward zero. -/
def truncate? (x : Binary64) : Option Int := x.ratio?.map fun (n, d) => n.tdiv d

/-- The fractional part of a finite number, with the sign of the number. -/
def fraction : Binary64 → Binary64
  | finite negative mantissa exponent =>
      let (n, d) := magnitude mantissa exponent
      ofRatio negative (n % d) d
  | x => x

/-- Whether two numbers are equal: NaN equals nothing and the two zeros are one. -/
def equal (x y : Binary64) : Bool :=
  match x.ratio?, y.ratio? with
  | some (n, d), some (n', d') => n * d' == n' * d
  | none, none => x == y && x != nan
  | _, _ => false

/-- Whether a number equals an integer. -/
def equalInt (x : Binary64) (k : Int) : Bool :=
  match x.ratio? with
  | some (n, d) => n == k * d
  | none => false

/-- One half is no integer, and three halves round to the even neighbour. -/
example : roundHalfEven 3 2 = 2 ∧ (ofRatio false 1 2).truncate? = some 0 := by decide

end Binary64

end ContainerWatch
