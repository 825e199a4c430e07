import ContainerWatch.Value.Basic

/-!
# The order of sets

A set does not keep the order in which its items were put into it.  It has a number of places, a power
of two that grows with the number of items, and holds a number at the place of its remainder, or if
that is taken at the first free one on a path from there.  Large numbers and fractions are first
reduced modulo a prime.
-/

namespace ContainerWatch.Value

/-- The prime modulo which numbers are reduced.  Modulo it the power of two with exponent 61 is one, so
    that a division by a power of two is a multiplication by another. -/
def orderPrime : Nat := Nat.pow 2 61 - 1

/-- A fraction whose denominator is a power of two, reduced with its sign; minus two stands for minus
    one also. -/
def reducedRatio (negative : Bool) (num den : Nat) : Int :=
  let size := num * Nat.pow 2 (61 - den.log2 % 61) % orderPrime
  if negative then (if size = 1 then -2 else -(size : Int)) else size

/-- The integer by which a number finds its place, if the value is one. -/
def orderKey? : Value → Option Int
  | bool b => some (if b then 1 else 0)
  | int n => some (reducedRatio (n < 0) n.natAbs 1)
  | float (.finite negative mantissa exponent) =>
      let (num, den) := Binary64.magnitude mantissa exponent
      some (reducedRatio negative num den)
  | float (.infinite negative) => some (if negative then -314159 else 314159)
  | _ => none

/-- The places of a set that are taken, with what they hold. -/
structure Places where
  size : Nat
  held : List (Nat × Value)

namespace Places

/-- The path from a place: a short row of places if there is room for it, then a jump, on which the
    rest of the number that is placed has an influence until nothing is left of it. -/
def path (size : Nat) : Nat → Nat → Nat → List Nat
  | 0, _, _ => []
  | jumps + 1, rest, place =>
      let row := if place + 10 ≤ size then List.range' place 10 else [place]
      row ++ path size jumps (rest / 32) ((5 * place + 1 + rest / 32) % size)

/-- The places with an item at the first free one of its path. -/
def put (places : Places) (key : Int) (item : Value) : Places :=
  let word := (key % (Nat.pow 2 64 : Nat)).toNat
  let free := (path places.size (places.size + 13) word (word % places.size)).find? fun place =>
    places.held.all fun entry => entry.1 != place
  { places with held := places.held ++ [(free.getD 0, item)] }

/-- What the places hold, in their order. -/
def items (places : Places) : List Value :=
  (places.held.mergeSort fun a b => a.1 ≤ b.1).map (·.2)

/-- The places with one more item; as soon as three fifths are taken there are four times as many, into
    which everything is put again. -/
def add (places : Places) (key : Int) (item : Value) : Places :=
  let next := places.put key item
  if 5 * next.held.length < 3 * (next.size - 1) then
    next
  else
    next.items.foldl (fun wider item => wider.put (item.orderKey?.getD 0) item) ⟨4 * next.size, []⟩

end Places

/-- Items in the order in which a set holds them; those that are no numbers stand behind the numbers,
    in their own order. -/
def inSetOrder (items : List Value) : List Value :=
  let places := items.foldl (fun (places : Places) item =>
    match item.orderKey? with
    | some key => places.add key item
    | none => places) ⟨8, []⟩
  places.items ++ items.filter fun item => item.orderKey?.isNone

/-- The set of several values, of which one is kept of those that are the same key. -/
def ofSet (items : List Value) : Value :=
  .set (inSetOrder ((Entries.ofPairs (items.map fun item => (item, null))).map (·.1)))

end ContainerWatch.Value
