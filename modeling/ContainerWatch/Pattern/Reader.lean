import ContainerWatch.Pattern.Source
import ContainerWatch.Pattern.Syntax
import ContainerWatch.Text.Numeral
import ContainerWatch.Unicode.Identifier
import ContainerWatch.Unicode.Letter
import ContainerWatch.Unicode.Name

/-!
# Reading patterns

A pattern is read token by token into its tree.  Reading keeps the groups opened so far with their
widths and names, the options set for the whole pattern, and the conditions on groups, which may
name a group that comes later.
-/

namespace ContainerWatch.Pattern

/-- What reading has found so far. -/
structure Progress where
  source : Source
  /-- The widths of the groups by number, beginning with the pattern as a whole. -/
  widths : GroupWidths
  names : List (String × Nat)
  /-- The groups that conditions name by number, each with the place of the first such name. -/
  conditions : List (Nat × Nat)
  options : Options
  /-- Inside a look behind, the number of groups that were there when it began. -/
  lookBehindGroups : Option Nat

/-- A step of reading, which may reject the pattern. -/
abbrev Read := StateT Progress (Except Error)

namespace Read

/-- Reject the pattern at a place. -/
def failAt {α : Type} (position : Nat) (cause : Cause) : Read α :=
  throw ⟨cause, some position⟩

/-- Reject the pattern a number of characters before the token ahead. -/
def fail {α : Type} (cause : Cause) (back : Nat) : Read α := do
  failAt ((← get).source.position - back) cause

/-- Reject the pattern without a place. -/
def failAnywhere {α : Type} (cause : Cause) : Read α := throw ⟨cause, none⟩

def peek : Read (Option Token) := return (← get).source.next

def position : Read Nat := return (← get).source.position

def take : Read (Option Token) := do
  let progress ← get
  let source ← progress.source.advance
  set { progress with source := source }
  return progress.source.next

/-- Take the token ahead if it is a given character. -/
def accept (c : Char) : Read Bool := do
  if (← peek) = some (.plain c) then
    let _ ← take
    return true
  else
    return false

/-- Take up to a number of characters of a class. -/
def takeUpTo (accepts : Char → Bool) : Nat → Read (List Char)
  | 0 => return []
  | count + 1 => do
      match ← peek with
      | some (.plain c) =>
          if accepts c then
            let _ ← take
            return c :: (← takeUpTo accepts count)
          else
            return []
      | _ => return []

/-- Take the characters of a class at the start, as many as there are. -/
def takeAll (accepts : Char → Bool) : Read (List Char) := do
  takeUpTo accepts ((← get).source.rest.length + 1)

/-- Take a name up to its terminator; `what` says what the name is one of. -/
def takeName (terminator : Char) (what : String) : Nat → List Char → Read (List Char)
  | 0, _ => fail (.missingName what) 0
  | fuel + 1, read => do
      match ← take with
      | none =>
          if read.isEmpty then fail (.missingName what) 0
          else fail (.unterminatedName terminator.toString) read.length
      | some token =>
          if token = .plain terminator then
            if read.isEmpty then fail (.missingName what) 1 else return read
          else
            takeName terminator what fuel (read ++ token.chars)

/-- Take a name up to its terminator. -/
def name (terminator : Char) (what : String) : Read (List Char) := do
  takeName terminator what ((← get).source.rest.length + 2) []

/-- The number of groups so far, the pattern as a whole among them. -/
def groupCount : Read Nat := return (← get).widths.length

/-- Whether a group is there and closed. -/
def isClosed (number : Nat) : Read Bool := do
  return (((← get).widths[number]?).join).isSome

/-- Reject a reference inside a look behind to a group that is open or began inside it. -/
def checkLookBehind (number : Nat) : Read Unit := do
  match (← get).lookBehindGroups with
  | none => return ()
  | some count =>
      if !(← isClosed number) then fail .openGroup 0
      if count ≤ number then fail .groupOfSameLookBehind 0

end Read

open Read

def isDigitChar (c : Char) : Bool := '0' ≤ c && c ≤ '9'

def isOctalChar (c : Char) : Bool := '0' ≤ c && c ≤ '7'

/-- The hexadecimal digits. -/
def isHexChar (c : Char) : Bool :=
  isDigitChar c || ('a' ≤ c && c ≤ 'f') || ('A' ≤ c && c ≤ 'F')

/-- The number that digits of a base write. -/
def numberOf (base : Nat) (digits : List Char) : Nat :=
  digits.foldl (fun total c =>
    base * total + (if isDigitChar c then c.toNat - 48 else c.toLower.toNat - 87)) 0

/-- The blanks that a verbose pattern skips. -/
def isPatternBlank (c : Char) : Bool :=
  c == ' ' || c == '\t' || c == '\n' || c == '\r' || c == '\x0b' || c == '\x0c'

/-- The control character that a letter behind a backslash stands for. -/
def controlEscape? : Char → Option Nat
  | 'a' => some 7
  | 'b' => some 8
  | 'f' => some 12
  | 'n' => some 10
  | 'r' => some 13
  | 't' => some 9
  | 'v' => some 11
  | '\\' => some 92
  | _ => none

/-- The repertoire that a letter behind a backslash stands for, and whether its complement is
    meant. -/
def kindEscape? : Char → Option (CharKind × Bool)
  | 'd' => some (.digit, false)
  | 'D' => some (.digit, true)
  | 's' => some (.space, false)
  | 'S' => some (.space, true)
  | 'w' => some (.word, false)
  | 'W' => some (.word, true)
  | _ => none

/-- The anchor that a letter behind a backslash stands for. -/
def anchorEscape? : Char → Option Anchor
  | 'A' => some .textStart
  | 'Z' => some .textEnd
  | 'b' => some .boundary
  | 'B' => some .noBoundary
  | _ => none

/-- The text of an escape that has been read to some length. -/
def escapeText (letter : Char) (rest : List Char) : String := String.ofList ('\\' :: letter :: rest)

/-- A code point in a fixed number of hexadecimal digits. -/
def readHexEscape (letter : Char) (count : Nat) : Read Nat := do
  let digits ← takeUpTo isHexChar count
  if digits.length ≠ count then
    fail (.incompleteEscape (escapeText letter digits)) (digits.length + 2)
  let code := numberOf 16 digits
  if 0x10FFFF < code then fail (.badEscape (escapeText letter digits)) (digits.length + 2)
  return code

/-- A character by its name. -/
def readNamedChar : Read Nat := do
  if !(← accept '\x7b') then fail .missingOpeningBrace 0
  let chars ← name '\x7d' "character name"
  match Unicode.charNamed? chars with
  | some code => return code
  | none => fail (.unknownCharacterName (String.ofList chars)) (chars.length + 4)

/-- The code point of an escape that is written the same inside and outside of classes. -/
def readCodeEscape? (letter : Char) : Read (Option Nat) := do
  if letter = 'x' then return some (← readHexEscape letter 2)
  else if letter = 'u' then return some (← readHexEscape letter 4)
  else if letter = 'U' then return some (← readHexEscape letter 8)
  else if letter = 'N' then return some (← readNamedChar)
  else return none

/-- A character that stands for itself behind a backslash; letters and digits of ASCII do not. -/
def readSelfEscape (letter : Char) : Read Nat := do
  if letter.isAlphanum then fail (.badEscape (escapeText letter [])) 2
  return letter.toNat

def readClassEscape (letter : Char) : Read ClassItem := do
  if let some code := controlEscape? letter then return .char code
  if let some (kind, negated) := kindEscape? letter then return .kind kind negated
  if let some code ← readCodeEscape? letter then return .char code
  if isOctalChar letter then
    let digits := letter :: (← takeUpTo isOctalChar 2)
    let code := numberOf 8 digits
    if 0o377 < code then
      fail (.octalTooLarge (String.ofList ('\\' :: digits))) (digits.length + 1)
    return .char code
  return .char (← readSelfEscape letter)

def readReference (digits : List Char) : Read Node := do
  let number := numberOf 10 digits
  if number < (← groupCount) then
    if !(← isClosed number) then fail .openGroup (digits.length + 1)
    checkLookBehind number
    return .reference number
  fail (.noSuchGroup number) digits.length

/-- An escape that begins with a digit: a code point in octal digits, or a reference to a group. -/
def readDigitEscape (first : Char) : Read Node := do
  if first = '0' then
    return .char (numberOf 8 ('0' :: (← takeUpTo isOctalChar 2)))
  match ← takeUpTo isDigitChar 1 with
  | [second] =>
      if isOctalChar first && isOctalChar second then
        match ← takeUpTo isOctalChar 1 with
        | [third] =>
            let digits := [first, second, third]
            let code := numberOf 8 digits
            if 0o377 < code then
              fail (.octalTooLarge (String.ofList ('\\' :: digits))) 4
            return .char code
        | _ => readReference [first, second]
      else
        readReference [first, second]
  | _ => readReference [first]

def readEscape (letter : Char) : Read Node := do
  if let some at_ := anchorEscape? letter then return .anchor at_
  if let some (kind, negated) := kindEscape? letter then return .set false [.kind kind negated]
  if let some code := controlEscape? letter then return .char code
  if let some code ← readCodeEscape? letter then return .char code
  if isDigitChar letter then readDigitEscape letter
  else return .char (← readSelfEscape letter)

/-- A member of a class of characters that is no range. -/
def readClassItem : Token → Read ClassItem
  | .plain c => return .char c.toNat
  | .escape letter => readClassEscape letter

/-- The members of a class of characters that begins at a place, up to its closing bracket.  A
    bracket that is the first member stands for itself. -/
def readClassItems (start : Nat) : Nat → List ClassItem → Read (List ClassItem)
  | 0, _ => failAt start .unterminatedSet
  | fuel + 1, read => do
      let some first ← take | failAt start .unterminatedSet
      if first = .plain ']' ∧ !read.isEmpty then
        return read
      let item ← readClassItem first
      if !(← accept '-') then
        readClassItems start fuel (read ++ [item])
      else
        let some last ← take | failAt start .unterminatedSet
        if last = .plain ']' then
          return read ++ [item, .char 45]
        let other ← readClassItem last
        let rejected : Read (List ClassItem) :=
          fail (.badRange first.text last.text) (first.length + 1 + last.length)
        match item, other with
        | .char lo, .char hi =>
            if hi < lo then rejected
            else readClassItems start fuel (read ++ [.range lo hi])
        | _, _ => rejected

def readClass (start : Nat) : Read Node := do
  let negated ← accept '^'
  let fuel := (← get).source.rest.length + 2
  let items := (← readClassItems start fuel []).eraseDups
  match items with
  | [.char code] => return if negated then .notChar code else .char code
  | _ => return .set negated items

/-- A count in digits, none if there are no digits. -/
def readCount (digits : List Char) : Read (Option Nat) := do
  if digits.isEmpty then return none
  if Text.numeralLimit < digits.length then failAnywhere (.countTooLong digits.length)
  let count := numberOf 10 digits
  if widthLimit ≤ count then failAnywhere .repetitionTooLarge
  return some count

/-- The counts of a repetition between braces, behind the opening one; none if what follows is no
    such counts and the brace stands for itself. -/
def readCounts? : Read (Option (Nat × Option Nat)) := do
  let saved ← get
  let start ← position
  let lo ← takeAll isDigitChar
  let ranged ← accept ','
  let hi ← if ranged then takeAll isDigitChar else pure lo
  if !ranged ∧ lo.isEmpty ∧ (← peek) = some (.plain '\x7d') then
    set saved
    return none
  if !(← accept '\x7d') then
    set saved
    return none
  let least ← readCount lo
  let greatest ← readCount hi
  if let some greatest := greatest then
    if greatest < least.getD 0 then failAt start .leastAboveGreatest
  return some (least.getD 0, greatest)

/-- The counts of a repetition that begins with a given character; none if that is a brace that
    stands for itself. -/
def readQuantifier? (c : Char) : Read (Option (Nat × Option Nat)) := do
  if c = '?' then return some (0, some 1)
  else if c = '*' then return some (0, none)
  else if c = '+' then return some (1, none)
  else readCounts?

/-- The order in which a repetition tries its counts, by the character behind it. -/
def readGreed : Read Greed := do
  if ← accept '?' then return .lazy
  else if ← accept '+' then return .possessive
  else return .greedy

/-- The pattern repeated, where a group that neither captures nor has options is its body. -/
def repeated : Node → List Node
  | .group none on off body =>
      if on.isEmpty && off.isEmpty then body else [.group none on off body]
  | node => [node]

/-- The last part read so far with a repetition put on it; `start` is the place of the repetition. -/
def readRepetition (start least : Nat) (greatest : Option Nat) (read : List Node) :
    Read (List Node) := do
  match read with
  | [] | .anchor _ :: _ => failAt start .nothingToRepeat
  | .repetition .. :: _ => failAt start .multipleRepeat
  | node :: nodes =>
      let greed ← readGreed
      return .repetition greed least greatest (repeated node) :: nodes

/-- The option that a letter turns on.  The letter L is one of them, but for other patterns. -/
def optionNamed? : Char → Option Options
  | 'i' => some { ignoreCase := true }
  | 'm' => some { multiLine := true }
  | 's' => some { dotAll := true }
  | 'x' => some { verbose := true }
  | 'a' => some { ascii := true }
  | 'u' => some { unicode := true }
  | 't' => some { template := true }
  | 'L' => some {}
  | _ => none

/-- The option of a token. -/
def tokenOption? : Token → Option (Char × Options)
  | .plain c => (optionNamed? c).map fun option => (c, option)
  | .escape _ => none

/-- Whether a token is a letter. -/
def isLetterToken : Token → Bool
  | .plain c => Unicode.isLetter c
  | .escape _ => false

/-- The options that are turned on, beginning with a given one, and the token behind them: a
    closing parenthesis, a minus or a colon. -/
def readOptionsOn : Nat → Options → Char → Options → Read (Options × Char)
  | 0, _, _, _ => fail .missingOptionEnd 0
  | fuel + 1, on, letter, option => do
      if letter = 'L' then fail .byteOption 0
      let on := on.union option
      if on.ascii && on.unicode then fail .clashingRepertoires 0
      match ← take with
      | none => fail .missingOptionEnd 0
      | some token =>
          match tokenOption? token with
          | some (letter, option) => readOptionsOn fuel on letter option
          | none =>
              match token with
              | .plain c =>
                  if c = ')' ∨ c = '-' ∨ c = ':' then return (on, c)
                  fail (if isLetterToken token then .unknownOption else .missingOptionEnd) 1
              | .escape _ => fail .missingOptionEnd 2

/-- The options that are turned off, beginning with a given one, up to the colon. -/
def readOptionsOff : Nat → Options → Char → Options → Read Options
  | 0, _, _, _ => fail .missingColon 0
  | fuel + 1, off, letter, option => do
      if letter = 'L' ∨ option.ascii ∨ option.unicode then fail .turnsOffRepertoire 0
      let off := off.union option
      match ← take with
      | none => fail .missingColon 0
      | some token =>
          if token = .plain ':' then return off
          match tokenOption? token with
          | some (letter, option) => readOptionsOff fuel off letter option
          | none =>
              fail (if isLetterToken token then .unknownOption else .missingColon) token.length

/-- What stands behind the opening parenthesis of a group. -/
inductive Head where
  | capture (name : Option String)
  | plain
  | atomic
  | options (on off : Options)
  | patternOptions
  | comment
  | reference (number : Nat)
  | lookAhead (negated : Bool)
  | lookBehind (negated : Bool)
  | condition (number : Nat)

/-- Options, beginning with a given token: of the whole pattern or of a group. -/
def readOptions (token : Token) : Read Head := do
  let fuel := (← get).source.rest.length + 3
  let (on, stop) ←
    match tokenOption? token with
    | some (letter, option) => readOptionsOn fuel {} letter option
    | none => pure ({}, '-')
  if stop = ')' then
    modify fun progress => { progress with options := progress.options.union on }
    return .patternOptions
  if on.template then fail .turnsOnGlobalOption 1
  if stop = ':' then
    return .options on {}
  let some token ← take | fail .missingOption 0
  let some (letter, option) := tokenOption? token
    | fail (if isLetterToken token then .unknownOption else .missingOption) token.length
  let off ← readOptionsOff fuel {} letter option
  if off.template then fail .turnsOffGlobalOption 1
  if !(on.inter off).isEmpty then fail .turnedOnAndOff 1
  return .options on off

/-- A name for a group, which must be an identifier. -/
def readGroupName (terminator : Char) : Read (List Char) := do
  let chars ← name terminator "group name"
  if !Unicode.isIdentifier chars then
    fail (.badGroupName (String.ofList chars)) (chars.length + 1)
  return chars

def groupNumber (chars : List Char) : Read Nat := do
  match (← get).names.lookup (String.ofList chars) with
  | some number => return number
  | none => fail (.unknownGroupName (String.ofList chars)) (chars.length + 1)

def readNamed : Read Head := do
  if ← accept '<' then
    return .capture (some (String.ofList (← readGroupName '>')))
  if ← accept '=' then
    let chars ← readGroupName ')'
    let number ← groupNumber chars
    if !(← isClosed number) then fail .openGroup (chars.length + 1)
    checkLookBehind number
    return .reference number
  match ← take with
  | none => fail .unexpectedEnd 0
  | some token =>
      fail (.unknownExtension (String.ofList ('P' :: token.chars))) (token.length + 2)

/-- The rest of a comment in a group that begins at a place. -/
def skipComment (start : Nat) : Nat → Read Unit
  | 0 => failAt start .unterminatedComment
  | fuel + 1 => do
      match ← peek with
      | none => failAt start .unterminatedComment
      | some token =>
          let _ ← take
          if token = .plain ')' then return () else skipComment start fuel

/-- The greatest number of groups. -/
def groupLimit : Nat := 1073741823

def readConditionNumber (chars : List Char) : Read Nat := do
  match Text.readNumeral chars with
  | .ok (.ofNat number) =>
      if number = 0 then fail .badGroupNumber (chars.length + 1)
      if groupLimit ≤ number then fail (.noSuchGroup number) (chars.length + 1)
      let place := (← position) - chars.length - 1
      modify fun progress =>
        if (progress.conditions.lookup number).isSome then progress
        else { progress with conditions := progress.conditions ++ [(number, place)] }
      return number
  | _ => fail (.badGroupName (String.ofList chars)) (chars.length + 1)

def readCondition : Read Head := do
  let chars ← name ')' "group name"
  let number ←
    if Unicode.isIdentifier chars then groupNumber chars else readConditionNumber chars
  checkLookBehind number
  return .condition number

/-- What stands behind the opening parenthesis of a group that begins at a place. -/
def readHead (start : Nat) : Read Head := do
  if !(← accept '?') then return .capture none
  match ← take with
  | none => fail .unexpectedEnd 0
  | some (.plain 'P') => readNamed
  | some (.plain ':') => return .plain
  | some (.plain '#') =>
      skipComment start ((← get).source.rest.length + 2)
      return .comment
  | some (.plain '=') => return .lookAhead false
  | some (.plain '!') => return .lookAhead true
  | some (.plain '<') =>
      match ← take with
      | none => fail .unexpectedEnd 0
      | some (.plain '=') => return .lookBehind false
      | some (.plain '!') => return .lookBehind true
      | some token =>
          fail (.unknownExtension (String.ofList ('<' :: token.chars))) (token.length + 2)
  | some (.plain '(') => readCondition
  | some (.plain '>') => return .atomic
  | some token =>
      if (tokenOption? token).isSome || token == .plain '-' then readOptions token
      else fail (.unknownExtension token.text) (token.length + 1)

/-- Open a group, with a name if it has one; its number is the number of groups so far. -/
def openGroup (name : Option String) : Read Nat := do
  let number ← groupCount
  match name with
  | none => modify fun progress => { progress with widths := progress.widths ++ [none] }
  | some name =>
      match (← get).names.lookup name with
      | some earlier => fail (.redefinedGroup name number earlier) (name.length + 1)
      | none =>
          modify fun progress =>
            { progress with
              widths := progress.widths ++ [none], names := (name, number) :: progress.names }
  return number

/-- Close a group, whose width is known by now. -/
def closeGroup (number : Nat) (body : List Node) : Read Unit :=
  modify fun progress =>
    let width := sequenceWidth progress.widths body
    { progress with widths := progress.widths.set number (some width) }

/-- The parts of a sequence, where the body of a group that neither captures nor has options stands
    for the group. -/
def unwrapped (nodes : List Node) : List Node :=
  nodes.flatMap fun
    | .group none on off body =>
        if on.isEmpty && off.isEmpty then body else [.group none on off body]
    | node => [node]

/-- Whether two parts are the same part that matches one character, an anchor or a reference. -/
def samePart : Node → Node → Bool
  | .char a, .char b => a == b
  | .notChar a, .notChar b => a == b
  | .anyChar, .anyChar => true
  | .set negated items, .set negated' items' => negated == negated' && items == items'
  | .anchor a, .anchor b => a == b
  | .reference a, .reference b => a == b
  | _, _ => false

/-- The part with which all alternatives begin. -/
def commonStart? : List (List Node) → Option Node
  | (node :: _) :: alternatives =>
      if alternatives.all fun
        | other :: _ => samePart other node
        | [] => false
      then some node else none
  | _ => none

/-- The parts with which all alternatives begin, and what is left of the alternatives. -/
def factored : Nat → List (List Node) → List Node × List (List Node)
  | 0, alternatives => ([], alternatives)
  | fuel + 1, alternatives =>
      match commonStart? alternatives with
      | none => ([], alternatives)
      | some node =>
          let (nodes, rest) := factored fuel (alternatives.map List.tail)
          (node :: nodes, rest)

/-- The members of the class that a single part stands for. -/
def classItems? : List Node → Option (List ClassItem)
  | [.char code] => some [.char code]
  | [.set false items] => some items
  | _ => none

/-- Alternatives as a sequence: what they have in common stands in front, and alternatives of one
    character each are one class. -/
def alternation (alternatives : List (List Node)) : List Node :=
  match alternatives with
  | [nodes] => nodes
  | _ =>
      let fuel := (alternatives.headD []).length
      let (start, rest) := factored fuel alternatives
      match rest.mapM classItems? with
      | some items => start ++ [.set false items.flatten.eraseDups]
      | none => start ++ [.branch rest]

/-- The rest of a line that a verbose pattern skips. -/
def skipLine : Nat → Read Unit
  | 0 => return ()
  | fuel + 1 => do
      match ← take with
      | none => return ()
      | some token => if token = .plain '\n' then return () else skipLine fuel

/-- Take the closing parenthesis of a group that begins at a place. -/
def closeParenthesis (start : Nat) : Read Unit := do
  if !(← accept ')') then failAt start .unterminatedGroup

mutual

/-- Alternatives, up to the end or a closing parenthesis.  At the top of the pattern each of them
    follows the options set so far. -/
def readAlternatives : Nat → Bool → Bool → List (List Node) → Read (List Node)
  | 0, _, _, _ => return []
  | fuel + 1, verbose, top, read => do
      let nodes ← readSequence fuel verbose (top && read.isEmpty) []
      let read := read ++ [nodes]
      if ← accept '|' then
        let options := (← get).options
        readAlternatives fuel (if top then options.verbose else verbose) top read
      else
        return alternation read

/-- The parts of a sequence; those read so far are held in reverse.  `first` says whether the
    sequence is the first one of the pattern. -/
def readSequence : Nat → Bool → Bool → List Node → Read (List Node)
  | 0, _, _, read => return unwrapped read.reverse
  | fuel + 1, verbose, first, read => do
      let some token ← peek | return unwrapped read.reverse
      if token = .plain '|' ∨ token = .plain ')' then
        return unwrapped read.reverse
      let _ ← take
      match token with
      | .escape letter =>
          let node ← readEscape letter
          readSequence fuel verbose first (node :: read)
      | .plain c =>
          if verbose && isPatternBlank c then
            readSequence fuel verbose first read
          else if verbose && c == '#' then
            skipLine ((← get).source.rest.length + 2)
            readSequence fuel verbose first read
          else if c = '[' then
            let node ← readClass ((← position) - 1)
            readSequence fuel verbose first (node :: read)
          else if c = '?' ∨ c = '*' ∨ c = '+' ∨ c = '\x7b' then
            let start := (← position) - 1
            match ← readQuantifier? c with
            | none => readSequence fuel verbose first (.char c.toNat :: read)
            | some (least, greatest) =>
                let read ← readRepetition start least greatest read
                readSequence fuel verbose first read
          else if c = '.' then
            readSequence fuel verbose first (.anyChar :: read)
          else if c = '(' then
            let start := (← position) - 1
            match ← readHead start with
            | .comment => readSequence fuel verbose first read
            | .patternOptions =>
                if !first || !read.isEmpty then failAt start .optionsNotAtStart
                readSequence fuel (← get).options.verbose first read
            | head =>
                let node ← readGroup fuel verbose start head
                readSequence fuel verbose first (node :: read)
          else if c = '^' then
            readSequence fuel verbose first (.anchor .lineStart :: read)
          else if c = '$' then
            readSequence fuel verbose first (.anchor .lineEnd :: read)
          else
            readSequence fuel verbose first (.char c.toNat :: read)

/-- The rest of a group that begins at a place, behind its head. -/
def readGroup : Nat → Bool → Nat → Head → Read Node
  | 0, _, _, _ => return .group none {} {} []
  | fuel + 1, verbose, start, head => do
      match head with
      | .reference number => return .reference number
      | .comment | .patternOptions => return .group none {} {} []
      | .lookAhead negated =>
          let body ← readAlternatives fuel verbose false []
          closeParenthesis start
          return .lookAhead negated body
      | .lookBehind negated =>
          let outer := (← get).lookBehindGroups
          let count ← groupCount
          modify fun progress =>
            { progress with lookBehindGroups := some (outer.getD count) }
          let body ← readAlternatives fuel verbose false []
          modify fun progress => { progress with lookBehindGroups := outer }
          closeParenthesis start
          return .lookBehind negated (sequenceWidth (← get).widths body) body
      | .condition number =>
          let yes ← readSequence fuel verbose false []
          let no ← if ← accept '|' then
              let no ← readSequence fuel verbose false []
              if (← peek) = some (.plain '|') then fail .tooManyBranches 0
              pure (some no)
            else
              pure none
          closeParenthesis start
          return .condition number yes no
      | .capture name =>
          let number ← openGroup name
          let body ← readAlternatives fuel verbose false []
          closeParenthesis start
          closeGroup number body
          return .group (some number) {} {} body
      | .plain =>
          let body ← readAlternatives fuel verbose false []
          closeParenthesis start
          return .group none {} {} body
      | .atomic =>
          let body ← readAlternatives fuel verbose false []
          closeParenthesis start
          return .atomic body
      | .options on off =>
          let body ← readAlternatives fuel ((verbose || on.verbose) && !off.verbose) false []
          closeParenthesis start
          return .group none on off body

end

/-- What is read: a tree, the options set for the whole of it, and its width. -/
structure Reading where
  nodes : List Node
  options : Options
  width : Width

def readWhole (length : Nat) : Read Reading := do
  let nodes ← readAlternatives (3 * length + 4) false true []
  let progress ← get
  let options := progress.options
  if options.ascii && options.unicode then failAnywhere .bothRepertoires
  if progress.source.next.isSome then fail .unbalancedParenthesis 0
  match progress.conditions.find? fun (number, _) => progress.widths.length ≤ number with
  | some (number, place) => failAt place (.noSuchGroup number)
  | none =>
      return {
        nodes := nodes
        options := { options with unicode := !options.ascii }
        width := sequenceWidth progress.widths nodes }

def readPattern (chars : List Char) : Except Error Reading := do
  let source ← Source.ofChars chars
  let start : Progress := ⟨source, [none], [], [], {}, none⟩
  let (result, _) ← (readWhole chars.length).run start
  return result

end ContainerWatch.Pattern
