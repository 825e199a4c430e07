import ContainerWatch.Fault
import ContainerWatch.Pattern
import ContainerWatch.Value.Sorted

/-!
# Which containers are watched

A filter of logical names.  Its rules are asked in order, and the first that has an opinion decides:
a pattern of names to watch, a pattern of names to leave out, a list of names to watch, a list of
names to leave out.  A name on which no rule has an opinion is watched.
-/

namespace ContainerWatch

/-- The rule that decides on a name. -/
inductive Rule where
  | includesPattern
  | excludesPattern
  | includes
  | excludes
  | default
  deriving DecidableEq, Repr

namespace Rule

/-- The name of a rule. -/
def name : Rule → String
  | includesPattern => "includes_pattern"
  | excludesPattern => "excludes_pattern"
  | includes => "includes"
  | excludes => "excludes"
  | default => "default"

end Rule

/-- The decision on a name: whether it is watched, and by which rule. -/
structure Verdict where
  allowed : Bool
  rule : Rule
  deriving DecidableEq, Repr

/-- What a filter is made from: two lists of names and two patterns, of which one that counts as
    nothing stands for none. -/
structure FilterSettings where
  excludes : List Value := []
  includes : List Value := []
  includesPattern : Value := .text ""
  excludesPattern : Value := .text ""
  deriving Inhabited

/-- A filter of names. -/
structure NameFilter where
  excludes : List Value
  includes : List Value
  includesPattern : Option Pattern
  excludesPattern : Option Pattern

namespace NameFilter

/-- The pattern that a text writes. -/
def compileText (rule : Rule) (source : String) : Except Fault Pattern :=
  match Pattern.compile source with
  | .ok pattern => .ok pattern
  | .error error =>
      let fault := error.fault source
      if error.cause.isMalformed then
        .error (.setting (.text rule.name)
          (.text ("failed to compile " ++ Text.quoted source ++ ": " ++ fault.text))
          (.text source) (some fault))
      else
        .error fault

/-- The pattern of a setting, none if the setting counts as nothing. -/
def compileSetting (rule : Rule) (setting : Value) : Except Fault (Option Pattern) :=
  if setting.isTruthy then
    match setting with
    | .text source => (compileText rule source).map some
    | setting => do
        let _ ← Fault.asKey setting
        throw (.ofMessage .type "first argument must be string or compiled pattern")
  else
    .ok none

/-- The names of a list, each of them once. -/
def namesOf (names : List Value) : Except Fault (List Value) := do
  let names ← names.mapM Fault.asKey
  return (Entries.ofPairs (names.map fun name => (name, .null))).map (·.1)

def ofSettings (settings : FilterSettings) : Except Fault NameFilter := do
  let excludes ← namesOf settings.excludes
  let includes ← namesOf settings.includes
  let includesPattern ← compileSetting .includesPattern settings.includesPattern
  let excludesPattern ← compileSetting .excludesPattern settings.excludesPattern
  return ⟨excludes, includes, includesPattern, excludesPattern⟩

/-- Whether a pattern occurs in a name.  Patterns search texts only. -/
def findIn (pattern : Pattern) (name : Value) : Except Fault Bool :=
  match name with
  | .text s => pattern.occursIn s
  | name =>
      .error (.ofMessage .type
        ("expected string or bytes-like object, got '" ++ name.kindName ++ "'"))

/-- Whether a name is on a list. -/
def isListed (names : List Value) (name : Value) : Except Fault Bool :=
  (Fault.asKey name).map fun name => names.any (·.sameKey name)

/-- A pattern of names to watch has an opinion on every name: it admits those in which it occurs. -/
def includesPatternRule (filter : NameFilter) (name : Value) : Except Fault (Option Bool) :=
  match filter.includesPattern with
  | none => .ok none
  | some pattern => (findIn pattern name).map some

/-- A pattern of names to leave out has an opinion on every name too. -/
def excludesPatternRule (filter : NameFilter) (name : Value) : Except Fault (Option Bool) :=
  match filter.excludesPattern with
  | none => .ok none
  | some pattern => (findIn pattern name).map fun found => some !found

/-- A list of names to watch has an opinion on every name, unless it is empty. -/
def includesRule (filter : NameFilter) (name : Value) : Except Fault (Option Bool) :=
  if filter.includes.isEmpty then .ok none
  else (isListed filter.includes name).map some

/-- A list of names to leave out has an opinion on the names on it, and on no others. -/
def excludesRule (filter : NameFilter) (name : Value) : Except Fault (Option Bool) :=
  (isListed filter.excludes name).map fun listed => if listed then some false else none

/-- A rule with what it says on a name: nothing if it abstains. -/
abbrev NamedRule := Rule × (NameFilter → Value → Except Fault (Option Bool))

/-- The rules in the order in which they are asked. -/
def rules : List NamedRule :=
  [(.includesPattern, includesPatternRule), (.excludesPattern, excludesPatternRule),
    (.includes, includesRule), (.excludes, excludesRule)]

/-- The verdict of the first of some rules that does not abstain; if all do, a name is watched. -/
def firstOpinion (filter : NameFilter) (name : Value) : List NamedRule → Except Fault Verdict
  | [] => .ok ⟨true, .default⟩
  | (rule, ask) :: rules => do
      match ← ask filter name with
      | some allowed => return ⟨allowed, rule⟩
      | none => firstOpinion filter name rules

/-- The decision on a name. -/
def decide (filter : NameFilter) (name : Value) : Except Fault Verdict :=
  firstOpinion filter name rules

/-- The quoted form of names in ascending order. -/
def sortedNames (names : List Value) : Except Fault String :=
  match Value.sorted names with
  | .ok names => .ok (Value.list names).quoted
  | .error (first, second) => .error (.unordered first second)

/-- The quoted text of a pattern, empty if there is none. -/
def quotedPattern : Option Pattern → String
  | some pattern => Text.quoted pattern.source
  | none => Text.quoted ""

/-- A filter in words, which needs an order of its names. -/
def describe (filter : NameFilter) : Except Fault String := do
  let excludes ← sortedNames filter.excludes
  let includes ← sortedNames filter.includes
  return "InclusionPolicy(excludes=" ++ excludes ++ ", includes=" ++ includes
    ++ ", includes_pattern=" ++ quotedPattern filter.includesPattern
    ++ ", excludes_pattern=" ++ quotedPattern filter.excludesPattern ++ ")"

end NameFilter

end ContainerWatch
