import ContainerWatch.Binary64.Basic

/-!
# Values

The loosely typed values that a container runtime's messages and the fields of a log record hold.
Besides the data of JSON there are bytes, tuples, sets, dictionaries with keys of any kind, lists that
contain themselves, and values of foreign kinds, which are known by their written forms alone.
-/

namespace ContainerWatch

/-- A value of a kind that is foreign to this library: its kind's name, its text, its form inside
    other values, and whether two such values with the same form are the same key. -/
structure Foreign where
  kindName : String
  shown : String
  quoted : String
  comparable : Bool
  /-- How it is reported if it is a fault. -/
  trail : Option String
  deriving DecidableEq, Repr, Inhabited

/-- A loosely typed value.  `loop items` is the list of these items and of itself as the last. -/
inductive Value where
  | null
  | bool (b : Bool)
  | int (n : Int)
  | float (x : Binary64)
  | text (s : String)
  | bytes (values : List Nat)
  | list (items : List Value)
  | loop (items : List Value)
  | tuple (items : List Value)
  | set (items : List Value)
  | dict (entries : List (Value × Value))
  | foreign (f : Foreign)
  deriving Inhabited

/-- The entries of a dictionary, in the order in which their keys were first put. -/
abbrev Entries := List (Value × Value)

namespace Value

/-- The name of a value's kind in messages. -/
def kindName : Value → String
  | null => "NoneType"
  | bool _ => "bool"
  | int _ => "int"
  | float _ => "float"
  | text _ => "str"
  | bytes _ => "bytes"
  | list _ | loop _ => "list"
  | tuple _ => "tuple"
  | set _ => "set"
  | dict _ => "dict"
  | foreign f => f.kindName

/-- Whether a value counts as something: null, false, zero and whatever is empty count as nothing. -/
def isTruthy : Value → Bool
  | null => false
  | bool b => b
  | int n => n != 0
  | float x => !x.isZero
  | text s => !s.isEmpty
  | bytes values => !values.isEmpty
  | list items | tuple items | set items => !items.isEmpty
  | dict entries => !entries.isEmpty
  | loop _ | foreign _ => true

/-- A value if it counts as something, and otherwise a default. -/
def orElse (value default : Value) : Value := if value.isTruthy then value else default

/-- The text inside a text value. -/
def text? : Value → Option String
  | text s => some s
  | _ => none

/-- The number that a number or a truth value stands for, as an integer or in floating point. -/
def number? : Value → Option (Int ⊕ Binary64)
  | bool b => some (.inl (if b then 1 else 0))
  | int n => some (.inl n)
  | float x => some (.inr x)
  | _ => none

/-- Whether two numbers are equal, whatever their kinds. -/
def sameNumber : Int ⊕ Binary64 → Int ⊕ Binary64 → Bool
  | .inl m, .inl n => m == n
  | .inl m, .inr y => y.equalInt m
  | .inr x, .inl n => x.equalInt n
  | .inr x, .inr y => x.equal y

mutual

/-- Whether two values are the same key: numbers are compared by their size, whatever their kind. -/
def sameKey : Value → Value → Bool
  | null, null => true
  | text s, text t => s == t
  | bytes xs, bytes ys => xs == ys
  | tuple xs, tuple ys => sameKeys xs ys
  | foreign f, foreign g => f.comparable && f == g
  | x, y =>
      match number? x, number? y with
      | some m, some n => sameNumber m n
      | _, _ => false

/-- Whether two lists of keys agree item by item. -/
def sameKeys : List Value → List Value → Bool
  | [], [] => true
  | x :: xs, y :: ys => sameKey x y && sameKeys xs ys
  | _, _ => false

end

mutual

/-- The kind of the first part of a value that keeps it from being a key. -/
def unhashable? : Value → Option String
  | list _ | loop _ => some "list"
  | set _ => some "set"
  | dict _ => some "dict"
  | tuple items => unhashableAmong? items
  | _ => none

/-- The kind of the first part of several values that keeps one of them from being a key. -/
def unhashableAmong? : List Value → Option String
  | [] => none
  | x :: xs => (unhashable? x).or (unhashableAmong? xs)

end

mutual

/-- Whether two values are equal.  Sequences are equal item by item, and dictionaries if they have
    equal values under the same keys, in whatever order. -/
def same : Value → Value → Bool
  | list xs, list ys => sameItems xs ys
  | tuple xs, tuple ys => sameItems xs ys
  | set xs, set ys => xs.length == ys.length && xs.all fun x => ys.any (sameKey x)
  | dict xs, dict ys => xs.length == ys.length && sameEntries xs ys
  | x, y => sameKey x y

/-- Whether two lists of values are equal item by item. -/
def sameItems : List Value → List Value → Bool
  | [], [] => true
  | x :: xs, y :: ys => same x y && sameItems xs ys
  | _, _ => false

/-- Whether a dictionary has equal values under all keys of some entries. -/
def sameEntries : List (Value × Value) → List (Value × Value) → Bool
  | [], _ => true
  | (key, x) :: xs, ys =>
      (match ys.find? fun entry => entry.1.sameKey key with
        | some (_, y) => same x y
        | none => false) && sameEntries xs ys

end

end Value

namespace Entries

/-- Put a value under a key; a key that is there already keeps its place and its form. -/
def put (key value : Value) : Entries → Entries
  | [] => [(key, value)]
  | (k, v) :: rest =>
      if k.sameKey key then (k, value) :: rest else (k, v) :: put key value rest

/-- The dictionary of a list of pairs, of which a later one overrules an earlier one. -/
def ofPairs (pairs : List (Value × Value)) : Entries :=
  pairs.foldl (fun entries (key, value) => entries.put key value) []

/-- The value under a text key. -/
def get? (entries : Entries) (key : String) : Option Value :=
  (entries.find? fun entry => entry.1.sameKey (.text key)).map (·.2)

/-- The value under a text key, null if there is none. -/
def getNull (entries : Entries) (key : String) : Value := (entries.get? key).getD .null

end Entries

end ContainerWatch
