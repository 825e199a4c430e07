import ContainerWatch.Pattern.Lead

/-!
# Matching

A pattern is matched at a place of the text by trying its parts in order; each part hands every
state in which it can end, one after the other, to what follows it, until that succeeds.
-/

namespace ContainerWatch.Pattern

open Follow (finish)

def matchChar (accepts : Char → Bool) : Matcher := fun state follow =>
  match state.place.next? with
  | some (c, place) => if accepts c then follow { state with place := place } else .failed state
  | none => .failed state

/-- Whether a place separates a word character from anything else; in an empty text none does, and
    none is without a boundary either. -/
def boundary? (ascii : Bool) (place : Place) : Option Bool :=
  let isWord (c : Option Char) := match c with
    | some c => CharKind.word.holds ascii c
    | none => false
  if place.before.isEmpty && place.after.isEmpty then none
  else some (isWord place.before.head? != isWord place.after.head?)

/-- Whether an anchor holds at a place. -/
def Anchor.holds (options : Options) (at_ : Anchor) (place : Place) : Bool :=
  match at_ with
  | lineStart => place.before.isEmpty || (options.multiLine && place.before.head? == some '\n')
  | lineEnd =>
      place.after.isEmpty || place.after == ['\n']
        || (options.multiLine && place.after.head? == some '\n')
  | textStart => place.before.isEmpty
  | textEnd => place.after.isEmpty
  | boundary => boundary? options.ascii place == some true
  | noBoundary => boundary? options.ascii place == some false

/-- Match a given text, character by character. -/
def matchText (same : Char → Char → Bool) : List Char → Matcher
  | [], state, follow => follow state
  | c :: text, state, follow =>
      match state.place.next? with
      | some (c', place) =>
          if same c c' then matchText same text { state with place := place } follow
          else .failed state
      | none => .failed state

/-- Whether two characters of the text are the same under the options. -/
def sameChar (options : Options) (a b : Char) : Bool :=
  if options.ignoreCase then lowered options.ascii a.toNat == lowered options.ascii b.toNat
  else a == b

/-- The state behind the characters that were counted. -/
def Single.counted (single : Single) (state : Matching) : Matching :=
  if single.movesHead then state.headHere else state

/-- Go on from a state after an attempt to pass more characters, if that has failed.  What is known of
    what follows, and whether enough characters have been matched, decide where that is not tried. -/
def orGoOn (looping : Bool) (ahead : Lead) (enough : Bool) (state : Matching) (follow : Follow) :
    Attempt → Attempt
  | .matched done => .matched done
  | .failed left =>
      let here := state.resumed looping left
      if !enough || ahead.rejects here.place then
        .failed here
      else
        match follow here.headHere with
        | .matched done => .matched done
        | .failed left => .failed (state.resumed looping left)

/-- Match as many characters as possible, then fewer.  `count` characters have been matched, and the
    first number says how many more there may be. -/
def matchRun (single : Single) (looping : Bool) (ahead : Lead) (least : Nat) :
    Nat → Nat → Matcher
  | 0, count, state, follow =>
      orGoOn looping ahead (least ≤ count) state follow (.failed (single.counted state))
  | room + 1, count, state, follow =>
      orGoOn looping ahead (least ≤ count) state follow
        (match state.place.next? with
          | some (c, place) =>
              if single.accepts c then
                matchRun single looping ahead least room (count + 1) { state with place := place }
                  follow
              else
                .failed (single.counted state)
          | none => .failed (single.counted state))

/-- Match as few characters as possible, then more. -/
def matchFewChars (single : Single) (looping : Bool) : Nat → Matcher
  | room, state, follow =>
      match follow state.headHere with
      | .matched done => .matched done
      | .failed left =>
          let here := (state.resumed looping left).headHere
          match room, state.place.next? with
          | 0, some (c, place) =>
              .failed (if single.accepts c then single.counted { here with place := place }
                else here)
          | room + 1, some (c, place) =>
              if single.accepts c then
                matchFewChars single looping room { here with place := place } follow
              else
                .failed here
          | _, none => .failed here

/-- Match a repetition of a pattern that matches one character each time. -/
def matchChars (single : Single) (looping : Bool) (ahead : Lead) (greed : Greed) (least : Nat)
    (greatest : Option Nat) : Matcher := fun state follow =>
  let length := state.place.after.length
  if length < least then
    .failed state
  else
    match greed with
    | .greedy =>
        matchRun single looping ahead least (greatest.getD length) 0 state.headHere follow
    | .lazy =>
        let (count, place) := state.place.pass single.accepts least
        let passed := single.counted { state.headHere with place := place }
        if count < least then .failed passed
        else
          matchFewChars single looping ((greatest.map (· - least)).getD (length + 1))
            { state.headHere with place := place } follow
    | .possessive =>
        let (count, place) := state.place.pass single.accepts (greatest.getD length)
        let passed := single.counted { state.headHere with place := place }
        if count < least then .failed passed else follow passed

/-- Match a body a number of times. -/
def matchTimes (body : Matcher) : Nat → Matcher
  | 0, state, follow => follow state
  | count + 1, state, follow =>
      (body state.headHere fun later => matchTimes body count later follow).failingAt state.place

/-- Match a body as often as possible, then less often.  The count that is left is unlimited if there
    is none, and the body is not tried at the place where it was last tried.  The fuel bounds the
    number of times. -/
def matchMany (body : Matcher) : Nat → Option Nat → Option Nat → Matcher
  | 0, _, _, state, follow => follow state
  | fuel + 1, left, tried, state, follow =>
      let again :=
        if left = some 0 ∨ tried = some state.place.index then
          none
        else
          (body state.headHere fun later =>
            matchMany body fuel (left.map (· - 1)) (some state.place.index) later follow).state?
      match again with
      | some done => .matched done
      | none => (follow state.headHere).failingAt state.place

/-- Match a body as seldom as possible, then more often. -/
def matchFew (body : Matcher) (looping : Bool) : Nat → Option Nat → Option Nat → Matcher
  | 0, _, _, state, follow => follow state
  | fuel + 1, left, tried, state, follow =>
      match follow state.headHere with
      | .matched done => .matched done
      | .failed leftover =>
          let here := (state.resumed looping leftover).headHere
          if left = some 0 ∨ tried = some state.place.index then
            .failed here
          else
            (body here fun later =>
              matchFew body looping fuel (left.map (· - 1)) (some state.place.index) later
                follow).failingAt state.place

/-- Match a body a number of times, each time in the first way in which it can be matched. -/
def commitTimes (body : Matcher) : Nat → Matching → Attempt
  | 0, state => .matched state
  | count + 1, state =>
      match body state.atHead finish with
      | .matched later => commitTimes body count later
      | .failed left => .failed left

/-- Match a body as often as possible, each time in the first way in which it can be matched.  The
    head stays where the attempt that failed left it. -/
def commitMany (body : Matcher) : Nat → Option Nat → Option Nat → Matching → Matching
  | 0, _, _, state => state
  | fuel + 1, left, tried, state =>
      if left = some 0 ∨ tried = some state.head.index then
        state
      else
        match body state.atHead finish with
        | .matched later => commitMany body fuel (left.map (· - 1)) (some state.head.index) later
        | .failed leftover => { leftover with marks := state.marks }

/-- Match a repetition of a body. -/
def matchRepetition (body : Matcher) (looping : Bool) (greed : Greed) (least : Nat)
    (greatest : Option Nat) : Matcher := fun state follow =>
  let left := greatest.map (· - least)
  let fuel := state.place.index + state.place.after.length + 2
  match greed with
  | .greedy => matchTimes body least state fun state => matchMany body fuel left none state follow
  | .lazy =>
      matchTimes body least state fun state => matchFew body looping fuel left none state follow
  | .possessive =>
      match commitTimes body least state.headHere with
      | .matched later => follow (commitMany body fuel left none later).atHead
      | .failed leftover => .failed { leftover with head := state.place }

/-- Match a body once, in the first way in which it can be matched. -/
def matchOnce (body : Matcher) : Matcher := fun state follow =>
  match body state.headHere finish with
  | .matched later => follow later.atHead
  | .failed leftover => .failed { leftover with head := state.place }

/-- Look whether a body matches a number of characters back, or whether it does not. -/
def matchLook (body : Matcher) (looping negated : Bool) (back : Nat) : Matcher :=
  fun state follow =>
    match state.place.back? back with
    | none => if negated then follow state else .failed state
    | some place =>
        match body { state with place := place, head := place } finish, negated with
        | .matched seen, false => follow { seen with place := state.place }
        | .failed leftover, true => follow (state.resumed looping leftover)
        | .matched seen, true => .failed seen
        | .failed leftover, false => .failed leftover

/-- Match one of two parts, according to whether a group has matched. -/
def matchCondition (number : Nat) (yes no : Matcher) : Matcher := fun state follow =>
  if (state.marks.span? number).isSome then yes state follow else no state follow

mutual

/-- Match a part of a pattern.  `looping` says whether it lies inside a greedy or lazy repetition,
    and `ahead` what is known of what follows it. -/
def matchNode (options : Options) (looping : Bool) (ahead : Lead) : Node → Matcher
  | .char code => matchChar (charMatches options code)
  | .notChar code => matchChar fun c => !charMatches options code c
  | .anyChar => matchChar fun c => options.dotAll || c != '\n'
  | .set negated items => matchChar (setMatches options negated items)
  | .anchor at_ => fun state follow =>
      if at_.holds options state.place then follow state else .failed state
  | .group number on off body =>
      match number with
      | some number => fun state follow =>
          matchSequence (options.within on off) looping .unknown body (state.enter number)
            fun state => follow (state.leave number)
      | none => matchSequence (options.within on off) looping ahead body
  | .atomic body => matchOnce (matchSequence options looping .unknown body)
  | .branch alternatives => matchBranch options looping alternatives
  | .repetition greed least greatest body =>
      match singleOf? options body with
      | some single => matchChars single looping ahead.charOnly greed least greatest
      | none =>
          matchRepetition (matchSequence options (looping || greed != .possessive) .unknown body)
            looping greed least greatest
  | .reference number => fun state follow =>
      match state.captured? number with
      | some text => matchText (sameChar options) text state follow
      | none => .failed state
  | .condition number yes no =>
      matchCondition number
        (matchSequence options looping (if no.all (·.isEmpty) then ahead else .unknown) yes)
        (match no with
          | some no => matchSequence options looping ahead no
          | none => fun state follow => follow state)
  | .lookAhead negated body =>
      matchLook (matchSequence options looping .unknown body) looping negated 0
  | .lookBehind negated width body =>
      matchLook (matchSequence options looping .unknown body) looping negated width.least

/-- Match a sequence of parts. -/
def matchSequence (options : Options) (looping : Bool) (ahead : Lead) : List Node → Matcher
  | [] => fun state follow => follow state
  | node :: nodes => fun state follow =>
      matchNode options looping (sequenceLead options ahead nodes) node state
        fun state => matchSequence options looping ahead nodes state follow

/-- Match one of several alternatives. -/
def matchBranch (options : Options) (looping : Bool) : List (List Node) → Matcher
  | [] => fun state _ => .failed state
  | nodes :: alternatives => fun state follow =>
      if (sequenceLead options .unknown nodes).rejects state.place then
        matchBranch options looping alternatives state follow
      else
        match matchSequence options looping .unknown nodes state.headHere follow with
        | .matched done => .matched done
        | .failed leftover =>
            matchBranch options looping alternatives (state.resumed looping leftover) follow

end

end ContainerWatch.Pattern
