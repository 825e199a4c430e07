/-!
# Search patterns

The syntax of search patterns as a tree: characters and classes of characters, anchors, groups,
alternatives, repetitions, references to what a group matched, conditions on groups, and the looks
ahead and behind.  Characters stand as code points, since a pattern may name a surrogate, which no
text contains.
-/

namespace ContainerWatch.Pattern

/-- A set of options of a pattern or of a part of it. -/
structure Options where
  ignoreCase : Bool := false
  multiLine : Bool := false
  dotAll : Bool := false
  verbose : Bool := false
  ascii : Bool := false
  unicode : Bool := false
  template : Bool := false
  deriving DecidableEq, Repr, Inhabited

namespace Options

/-- The options of either of two sets. -/
def union (a b : Options) : Options where
  ignoreCase := a.ignoreCase || b.ignoreCase
  multiLine := a.multiLine || b.multiLine
  dotAll := a.dotAll || b.dotAll
  verbose := a.verbose || b.verbose
  ascii := a.ascii || b.ascii
  unicode := a.unicode || b.unicode
  template := a.template || b.template

/-- The options of both of two sets. -/
def inter (a b : Options) : Options where
  ignoreCase := a.ignoreCase && b.ignoreCase
  multiLine := a.multiLine && b.multiLine
  dotAll := a.dotAll && b.dotAll
  verbose := a.verbose && b.verbose
  ascii := a.ascii && b.ascii
  unicode := a.unicode && b.unicode
  template := a.template && b.template

/-- The options of the first of two sets that are not in the second. -/
def minus (a b : Options) : Options where
  ignoreCase := a.ignoreCase && !b.ignoreCase
  multiLine := a.multiLine && !b.multiLine
  dotAll := a.dotAll && !b.dotAll
  verbose := a.verbose && !b.verbose
  ascii := a.ascii && !b.ascii
  unicode := a.unicode && !b.unicode
  template := a.template && !b.template

def isEmpty (a : Options) : Bool := a == {}

/-- The options of a part that turns some on and others off.  Of the two repertoires of characters
    the one that is turned on replaces the other. -/
def within (outer on off : Options) : Options :=
  let base := if on.ascii || on.unicode then { outer with ascii := false, unicode := false } else outer
  (base.union on).minus off

end Options

/-- A repertoire of characters that a pattern names by a letter. -/
inductive CharKind where
  | digit
  | space
  | word
  deriving DecidableEq, Repr

/-- A member of a class of characters. -/
inductive ClassItem where
  | char (code : Nat)
  | range (first last : Nat)
  | kind (kind : CharKind) (negated : Bool)
  deriving DecidableEq, Repr

/-- A condition on a place in the text. -/
inductive Anchor where
  | lineStart
  | lineEnd
  | textStart
  | textEnd
  | boundary
  | noBoundary
  deriving DecidableEq, Repr

/-- In which order a repetition tries its counts; a possessive one tries none but the greatest. -/
inductive Greed where
  | greedy
  | lazy
  | possessive
  deriving DecidableEq, Repr

/-- The least and the greatest length of what a pattern matches. -/
structure Width where
  least : Nat
  greatest : Nat
  deriving DecidableEq, Repr

/-- A part of a pattern; a pattern is a sequence of them. -/
inductive Node where
  | char (code : Nat)
  | notChar (code : Nat)
  | anyChar
  | set (negated : Bool) (items : List ClassItem)
  | anchor (at_ : Anchor)
  /-- A group, with its number if it captures, and the options that it turns on and off. -/
  | group (number : Option Nat) (on off : Options) (body : List Node)
  | atomic (body : List Node)
  | branch (alternatives : List (List Node))
  /-- A repetition, of unlimited count if there is no greatest one. -/
  | repetition (greed : Greed) (least : Nat) (greatest : Option Nat) (body : List Node)
  /-- The text that a group matched. -/
  | reference (number : Nat)
  /-- One of two patterns, according to whether a group has matched. -/
  | condition (number : Nat) (yes : List Node) (no : Option (List Node))
  | lookAhead (negated : Bool) (body : List Node)
  /-- A look at the text in front, which begins as far back as the pattern is long. -/
  | lookBehind (negated : Bool) (width : Width) (body : List Node)
  deriving Inhabited

/-- The length that no width exceeds, and from which on a repetition is not counted. -/
def widthLimit : Nat := 4294967295

/-- The widths of the groups by number; a group that is still open has none. -/
abbrev GroupWidths := List (Option Width)

namespace Width

/-- The width of two patterns in a row. -/
def add (a b : Width) : Width := ⟨a.least + b.least, a.greatest + b.greatest⟩

/-- The width of either of two patterns. -/
def either (a b : Width) : Width := ⟨min a.least b.least, max a.greatest b.greatest⟩

/-- The width as far as it is told apart.  The least length stays below the limit, so that a length at
    the limit is not taken for a fixed one. -/
def capped (a : Width) : Width := ⟨min a.least (widthLimit - 1), min a.greatest widthLimit⟩

/-- The width of a repetition. -/
def times (least : Nat) (greatest : Option Nat) (a : Width) : Width :=
  ⟨a.least * least, match greatest with
    | some count => a.greatest * count
    | none => if a.greatest = 0 then 0 else widthLimit⟩

end Width

mutual

/-- The width of a part of a pattern. -/
def Node.width (groups : GroupWidths) : Node → Width
  | .char _ | .notChar _ | .anyChar | .set .. => ⟨1, 1⟩
  | .anchor _ | .lookAhead .. | .lookBehind .. => ⟨0, 0⟩
  | .group _ _ _ body | .atomic body => sequenceWidth groups body
  | .branch alternatives => branchWidth groups alternatives
  | .repetition _ least greatest body => (sequenceWidth groups body).times least greatest
  | .reference number => ((groups[number]?).join).getD ⟨0, 0⟩
  | .condition _ yes no =>
      match no with
      | some no => (sequenceWidth groups yes).either (sequenceWidth groups no)
      | none => ⟨0, (sequenceWidth groups yes).greatest⟩

/-- The width of a sequence of parts. -/
def sequenceWidth (groups : GroupWidths) : List Node → Width
  | [] => ⟨0, 0⟩
  | node :: nodes => ((node.width groups).add (sequenceWidth groups nodes)).capped

/-- The width of the alternatives of a branch. -/
def branchWidth (groups : GroupWidths) : List (List Node) → Width
  | [] => ⟨widthLimit - 1, 0⟩
  | nodes :: alternatives => (sequenceWidth groups nodes).either (branchWidth groups alternatives)

end

end ContainerWatch.Pattern
