import ContainerWatch.Pattern.Syntax

/-!
# States of a match

A match has got to a place of the text.  Besides, it keeps where its last attempt began, or ended if
it succeeded, and the limits of what the groups have matched.  An attempt that fails leaves the
latter two behind.  Most parts of a pattern put them back, or do not look at them; a possessive
repetition goes on from where its last attempt left off.
-/

namespace ContainerWatch.Pattern

/-- A place in the text: the number of characters in front of it, these characters from the nearest
    to the first, and the characters behind it. -/
structure Place where
  index : Nat
  before : List Char
  after : List Char
  deriving DecidableEq, Repr

namespace Place

def start (text : List Char) : Place := ⟨0, [], text⟩

/-- The character behind a place and the place behind it. -/
def next? (place : Place) : Option (Char × Place) :=
  match place.after with
  | [] => none
  | c :: after => some (c, ⟨place.index + 1, c :: place.before, after⟩)

/-- The place a number of characters back. -/
def back? : Nat → Place → Option Place
  | 0, place => some place
  | count + 1, place =>
      match place.before with
      | [] => none
      | c :: before => back? count ⟨place.index - 1, before, c :: place.after⟩

/-- The place behind as many characters of a class as there are, up to a number, and how many they
    are. -/
def pass (accepts : Char → Bool) : Nat → Place → Nat × Place
  | 0, place => (0, place)
  | room + 1, place =>
      match place.next? with
      | some (c, next) =>
          if accepts c then
            let (count, far) := pass accepts room next
            (count + 1, far)
          else
            (0, place)
      | none => (0, place)

end Place

/-- The limits of the groups.  Those of the group with number `n` stand at `2 * n - 2`, where it was
    last entered, and at `2 * n - 1`, where it was last left.  The last of them has been set. -/
abbrev Marks := List (Option Nat)

namespace Marks

/-- Set a limit. -/
def put (marks : Marks) (index place : Nat) : Marks :=
  if index < marks.length then marks.set index (some place)
  else marks ++ List.replicate (index - marks.length) none ++ [some place]

/-- Where what a group matched begins and ends, if the group has matched. -/
def span? (marks : Marks) (number : Nat) : Option (Nat × Nat) :=
  match marks[2 * number - 2]?, marks[2 * number - 1]? with
  | some (some first), some (some last) => if first ≤ last then some (first, last) else none
  | _, _ => none

/-- Whether some group was entered behind the place where it was left. -/
def isCrossed : Marks → Bool
  | some first :: some last :: marks => last < first || isCrossed marks
  | _ :: _ :: marks => isCrossed marks
  | _ => false

end Marks

/-- A state of a match. -/
structure Matching where
  place : Place
  /-- Where the last attempt began, or ended if it succeeded. -/
  head : Place
  marks : Marks
  deriving DecidableEq, Repr

namespace Matching

def start (place : Place) : Matching := ⟨place, place, []⟩

/-- The state in which an attempt begins here. -/
def headHere (state : Matching) : Matching := { state with head := state.place }

/-- The state that goes on from its head. -/
def atHead (state : Matching) : Matching := { state with place := state.head }

/-- The state in which a group is entered here. -/
def enter (state : Matching) (number : Nat) : Matching :=
  { state with marks := state.marks.put (2 * number - 2) state.place.index }

/-- The state in which a group is left here. -/
def leave (state : Matching) (number : Nat) : Matching :=
  { state with marks := state.marks.put (2 * number - 1) state.place.index }

/-- The text that a group matched. -/
def captured? (state : Matching) (number : Nat) : Option (List Char) :=
  (state.marks.span? number).map fun (first, last) =>
    let text := state.place.before.reverse ++ state.place.after
    (text.drop first).take (last - first)

/-- Go on in a state after an attempt from there that left something behind.  Inside a loop all
    limits are put back, and elsewhere only those that have been set since are forgotten. -/
def resumed (state : Matching) (looping : Bool) (left : Matching) : Matching where
  place := state.place
  head := left.head
  marks := if looping then state.marks else left.marks.take state.marks.length

end Matching

/-- How an attempt to match ends, and in which state. -/
inductive Attempt where
  | matched (state : Matching)
  | failed (state : Matching)
  deriving DecidableEq, Repr

namespace Attempt

/-- The state in which a successful attempt ends. -/
def state? : Attempt → Option Matching
  | matched state => some state
  | failed _ => none

/-- The attempt, after which a failed one has its head at a place. -/
def failingAt (place : Place) : Attempt → Attempt
  | matched state => matched state
  | failed state => failed { state with head := place }

end Attempt

/-- What follows a part of a pattern. -/
abbrev Follow := Matching → Attempt

def Follow.finish : Follow := fun state => .matched state.headHere

/-- A way to match: it hands every state in which the match can end, one after the other, to what
    follows, until that succeeds. -/
abbrev Matcher := Matching → Follow → Attempt

end ContainerWatch.Pattern
