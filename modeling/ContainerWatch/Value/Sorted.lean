import ContainerWatch.Value.Basic

/-!
# Values in ascending order

Texts are ordered by their characters, and numbers by their size.  Two values of other kinds have no
order, nor have a text and a number.
-/

namespace ContainerWatch.Value

/-- The size of a number: a sign for one that is infinite, and the ratio for one that is not. -/
def size? : Value → Option (Int × Int × Nat)
  | bool b => some (0, if b then 1 else 0, 1)
  | int n => some (0, n, 1)
  | float (.infinite negative) => some (if negative then -1 else 1, 0, 1)
  | float x => x.ratio?.map fun ratio => (0, ratio)
  | _ => none

/-- Whether a value stands before another, if they have an order. -/
def before? : Value → Value → Option Bool
  | text s, text t => some (s < t)
  | x, y => do
      let (sign, num, den) ← x.size?
      let (sign', num', den') ← y.size?
      return sign < sign' || (sign == sign' && num * den' < num' * den)

/-- The first two neighbours that have no order. -/
def disorder? : List Value → Option (Value × Value)
  | x :: y :: rest => if (before? y x).isNone then some (x, y) else disorder? (y :: rest)
  | _ => none

/-- Values in ascending order, or two neighbours that have none. -/
def sorted (values : List Value) : Except (Value × Value) (List Value) :=
  match disorder? values with
  | some neighbours => .error neighbours
  | none => .ok (values.mergeSort fun x y => before? y x != some true)

/-- Truth values and fractions stand among the integers. -/
example : (before? (.bool true) (.int 2), before? (.float (Binary64.ofRatio true 1 2)) (.int 0),
    before? (.text "a") (.int 0)) = (some true, some true, none) := by decide

end ContainerWatch.Value
