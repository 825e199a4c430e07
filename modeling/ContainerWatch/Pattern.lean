import ContainerWatch.Pattern.Reader
import ContainerWatch.Pattern.Search

/-!
# Compiled patterns

A search pattern that has been read and found usable.  It is searched for anywhere in a text.
-/

namespace ContainerWatch

/-- A usable search pattern: its text, its tree, the options set for the whole of it, and the length
    of its shortest match. -/
structure Pattern where
  source : String
  nodes : List Pattern.Node
  options : Pattern.Options
  least : Nat

namespace Pattern

/-- The operator of a repetition, as a rejection names it. -/
def Greed.operator : Greed → String
  | greedy => "MAX_REPEAT"
  | lazy => "MIN_REPEAT"
  | possessive => "POSSESSIVE_REPEAT"

/-- Why a look behind of a width is rejected. -/
def widthError? (width : Width) : Option Cause :=
  if width.least ≠ width.greatest then some .variableLookBehind else none

mutual

/-- The first cause, in order of the pattern, that a check finds in a part or inside it. -/
def Node.flaw? (check : Node → Option Cause) (node : Node) : Option Cause :=
  (check node).or
    (match node with
      | .group _ _ _ body | .atomic body | .lookAhead _ body | .lookBehind _ _ body
      | .repetition _ _ _ body => sequenceFlaw? check body
      | .branch alternatives => branchFlaw? check alternatives
      | .condition _ yes no =>
          (sequenceFlaw? check yes).or
            (match no with
              | some no => sequenceFlaw? check no
              | none => none)
      | _ => none)

/-- The first cause that a check finds in a sequence of parts. -/
def sequenceFlaw? (check : Node → Option Cause) : List Node → Option Cause
  | [] => none
  | node :: nodes => (node.flaw? check).or (sequenceFlaw? check nodes)

/-- The first cause that a check finds in alternatives. -/
def branchFlaw? (check : Node → Option Cause) : List (List Node) → Option Cause
  | [] => none
  | nodes :: alternatives => (sequenceFlaw? check nodes).or (branchFlaw? check alternatives)

end

/-- Why a part cannot be used. -/
def formCheck (options : Options) : Node → Option Cause
  | .repetition greed .. =>
      if options.template then some (.templateRepetition greed.operator) else none
  | .lookBehind _ width _ => widthError? width
  | _ => none

/-- The length from which on a look behind is taken for something else. -/
def lookMark : Nat := 2147483648

/-- Why a part of the right form cannot be used. -/
def reachCheck : Node → Option Cause
  | .lookBehind _ width _ => if lookMark ≤ width.least then some .misplacedLook else none
  | _ => none

/-- The pattern that a text writes. -/
def compile (source : String) : Except Error Pattern :=
  match readPattern source.toList with
  | .error error => .error error
  | .ok reading =>
      let flaw := (sequenceFlaw? (formCheck reading.options) reading.nodes).or
        (sequenceFlaw? reachCheck reading.nodes)
      match flaw with
      | some cause => .error ⟨cause, none⟩
      | none => .ok ⟨source, reading.nodes, reading.options, reading.width.least⟩

/-- The fault of a match with a group that was entered behind the place where it was left. -/
def crossedFault : Fault :=
  .ofMessage .internal
    "The span of capturing group is wrong, please report a bug for the re module."

/-- Whether a pattern occurs in a text. -/
def occursIn (pattern : Pattern) (text : String) : Except Fault Bool :=
  match search pattern.options pattern.least pattern.nodes text.toList with
  | none => .ok false
  | some done => if done.marks.isCrossed then .error crossedFault else .ok true

end Pattern

end ContainerWatch
