import ContainerWatch.Fault
import ContainerWatch.Text.Numeral

/-!
# Rejected patterns

Why a pattern is rejected and where.  The text of a rejection ends with the place, counted in
characters from the start, and in a pattern of several lines also with line and column.
-/

namespace ContainerWatch.Pattern

/-- Why a pattern is rejected. -/
inductive Cause where
  | danglingBackslash
  | badEscape (escape : String)
  | incompleteEscape (escape : String)
  | missingOpeningBrace
  | missingName (what : String)
  | unterminatedName (terminator : String)
  | unknownCharacterName (name : String)
  | octalTooLarge (escape : String)
  | openGroup
  | groupOfSameLookBehind
  | noSuchGroup (number : Nat)
  | unterminatedSet
  | badRange (first last : String)
  | leastAboveGreatest
  | nothingToRepeat
  | multipleRepeat
  | unexpectedEnd
  | badGroupName (name : String)
  | unknownGroupName (name : String)
  | badGroupNumber
  | redefinedGroup (name : String) (number earlier : Nat)
  | unknownExtension (text : String)
  | unterminatedComment
  | unterminatedGroup
  | tooManyBranches
  | optionsNotAtStart
  | byteOption
  | clashingRepertoires
  | missingOptionEnd
  | unknownOption
  | missingOption
  | missingColon
  | turnsOnGlobalOption
  | turnsOffGlobalOption
  | turnsOffRepertoire
  | turnedOnAndOff
  | unbalancedParenthesis
  | variableLookBehind
  | templateRepetition (operator : String)
  /-- A count that does not fit; no fault of the pattern's form. -/
  | repetitionTooLarge
  /-- A count with too many digits; no fault of the pattern's form. -/
  | countTooLong (digits : Nat)
  /-- Both repertoires are asked for, in two places; no fault of the pattern's form. -/
  | bothRepertoires
  /-- A look farther behind than can be told from one ahead; no fault of the pattern's form. -/
  | misplacedLook
  deriving DecidableEq, Repr

namespace Cause

/-- The cause in words. -/
def message : Cause → String
  | danglingBackslash => "bad escape (end of pattern)"
  | badEscape escape => "bad escape " ++ escape
  | incompleteEscape escape => "incomplete escape " ++ escape
  | missingOpeningBrace => "missing \x7b"
  | missingName what => "missing " ++ what
  | unterminatedName terminator => "missing " ++ terminator ++ ", unterminated name"
  | unknownCharacterName name => "undefined character name " ++ Text.quoted name
  | octalTooLarge escape => "octal escape value " ++ escape ++ " outside of range 0-0o377"
  | openGroup => "cannot refer to an open group"
  | groupOfSameLookBehind => "cannot refer to group defined in the same lookbehind subpattern"
  | noSuchGroup number => "invalid group reference " ++ String.ofList (Text.decimal number)
  | unterminatedSet => "unterminated character set"
  | badRange first last => "bad character range " ++ first ++ "-" ++ last
  | leastAboveGreatest => "min repeat greater than max repeat"
  | nothingToRepeat => "nothing to repeat"
  | multipleRepeat => "multiple repeat"
  | unexpectedEnd => "unexpected end of pattern"
  | badGroupName name => "bad character in group name " ++ Text.quoted name
  | unknownGroupName name => "unknown group name " ++ Text.quoted name
  | badGroupNumber => "bad group number"
  | redefinedGroup name number earlier =>
      "redefinition of group name " ++ Text.quoted name ++ " as group "
        ++ String.ofList (Text.decimal number) ++ "; was group "
        ++ String.ofList (Text.decimal earlier)
  | unknownExtension text => "unknown extension ?" ++ text
  | unterminatedComment => "missing ), unterminated comment"
  | unterminatedGroup => "missing ), unterminated subpattern"
  | tooManyBranches => "conditional backref with more than two branches"
  | optionsNotAtStart => "global flags not at the start of the expression"
  | byteOption => "bad inline flags: cannot use 'L' flag with a str pattern"
  | clashingRepertoires => "bad inline flags: flags 'a', 'u' and 'L' are incompatible"
  | missingOptionEnd => "missing -, : or )"
  | unknownOption => "unknown flag"
  | missingOption => "missing flag"
  | missingColon => "missing :"
  | turnsOnGlobalOption => "bad inline flags: cannot turn on global flag"
  | turnsOffGlobalOption => "bad inline flags: cannot turn off global flag"
  | turnsOffRepertoire => "bad inline flags: cannot turn off flags 'a', 'u' and 'L'"
  | turnedOnAndOff => "bad inline flags: flag turned on and off"
  | unbalancedParenthesis => "unbalanced parenthesis"
  | variableLookBehind => "look-behind requires fixed-width pattern"
  | templateRepetition operator => "internal: unsupported template operator " ++ operator
  | repetitionTooLarge => "the repetition number is too large"
  | countTooLong digits => Text.tooLongMessage digits
  | bothRepertoires => "ASCII and UNICODE flags are incompatible"
  | misplacedLook => "invalid SRE code"

/-- The kind of fault that a cause is. -/
def kind : Cause → FaultKind
  | repetitionTooLarge => .overflow
  | countTooLong _ | bothRepertoires => .value
  | misplacedLook => .runtime
  | _ => .pattern

/-- Whether a cause lies in the form of the pattern. -/
def isMalformed : Cause → Bool
  | repetitionTooLarge | countTooLong _ | bothRepertoires | misplacedLook => false
  | _ => true

end Cause

/-- The rejection of a pattern: its cause, and the place if it has one. -/
structure Error where
  cause : Cause
  position : Option Nat
  deriving DecidableEq, Repr

namespace Error

/-- A number in a message. -/
private def numbered (n : Nat) : String := String.ofList (Text.decimal n)

/-- The place of a rejection in words.  Lines count from one, and columns from one behind a line
    feed. -/
def placeText (pattern : List Char) (position : Nat) : String :=
  let before := pattern.take position
  let line := before.count '\n' + 1
  let column := (before.reverse.takeWhile (· ≠ '\n')).length + 1
  let lines := " (line " ++ numbered line ++ ", column " ++ numbered column ++ ")"
  " at position " ++ numbered position ++ (if '\n' ∈ pattern then lines else "")

/-- A rejection in words. -/
def message (pattern : String) (error : Error) : String :=
  error.cause.message ++
    (match error.position with
      | some position => placeText pattern.toList position
      | none => "")

/-- A rejection as a fault. -/
def fault (pattern : String) (error : Error) : Fault :=
  .ofMessage error.cause.kind (error.message pattern)

end Error

end ContainerWatch.Pattern
