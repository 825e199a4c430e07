/-!
# Character classes as boundary lists

A class of code points is written as the increasing list of the code points at which membership
changes: the first boundary opens the class, the next one closes it, and so on.  Every table of
this library beyond the ASCII range is such a list, taken from version 14.0 of the Unicode
Character Database.
-/

namespace ContainerWatch.Unicode

/-- Membership of a code point in the class that the boundary list opens and closes. -/
def within : List Nat → Nat → Bool
  | first :: next :: rest, code =>
      if code < first then false else if code < next then true else within rest code
  | [first], code => first ≤ code
  | [], _ => false

end ContainerWatch.Unicode
