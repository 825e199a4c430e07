import ContainerWatch.Configuration.Number
import ContainerWatch.NameFilter
import ContainerWatch.Text.Pieces
import ContainerWatch.Unicode.Case
import ContainerWatch.Unicode.Space

/-!
# Configuration

The program is configured by variables of its environment.  Their names are compared in lower case,
and of two variables with one name the later counts.  Numbers are read leniently; lists of names are
separated by commas.
-/

namespace ContainerWatch

/-- What the environment configures. -/
structure Configuration where
  /-- The address of the engine, empty for the usual one. -/
  engineAddress : String := ""
  /-- How long a request to the engine may take, in seconds. -/
  engineTimeout : Int := 60
  excludes : String := ""
  includes : String := ""
  includesPattern : String := ""
  excludesPattern : String := ""
  /-- The capacity of the channel. -/
  bufferSize : Int := 100
  logFormat : String := "json"
  logLevel : String := "INFO"
  deriving DecidableEq, Repr, Inhabited

namespace Configuration

/-- A variable that cannot be used. -/
structure FieldError where
  field : String
  flaw : NumberFlaw
  input : String
  deriving DecidableEq, Repr

/-- The variables of an environment by their names in lower case. -/
def lowered (environment : List (String × String)) : List (String × String) :=
  environment.map fun (name, value) => (String.ofList (Unicode.lowerText name.toList), value)

/-- The last variable with a name that begins with the name of the program. -/
def valueOf? (environment : List (String × String)) (field : String) : Option String :=
  ((lowered environment).reverse.lookup ("dockwatch_" ++ field))

/-- A number of the environment, or its default. -/
def numberField (environment : List (String × String)) (field : String) (default : Int) :
    Except FieldError Int :=
  match valueOf? environment field with
  | none => .ok default
  | some input =>
      match readNumber input with
      | .ok n => .ok n
      | .error flaw => .error ⟨field, flaw, input⟩

/-- The configuration that an environment describes, or all its variables that cannot be used. -/
def ofEnvironment (environment : List (String × String)) :
    Except (List FieldError) Configuration :=
  let text (field default : String) : String := (valueOf? environment field).getD default
  let timeout := numberField environment "docker_timeout" 60
  let size := numberField environment "buffer_size" 100
  match timeout, size with
  | .ok timeout, .ok size =>
      .ok {
        engineAddress := text "docker_host" ""
        engineTimeout := timeout
        excludes := text "excludes" ""
        includes := text "includes" ""
        includesPattern := text "includes_pattern" ""
        excludesPattern := text "excludes_pattern" ""
        bufferSize := size
        logFormat := text "log_format" "json"
        logLevel := text "log_level" "INFO" }
  | .error first, .error second => .error [first, second]
  | .error error, .ok _ | .ok _, .error error => .error [error]

/-- The names in a list separated by commas: its pieces without the white space around them, as far
    as anything is left of them. -/
def splitNames (list : String) : List String :=
  let pieces := (Text.piecesAt ',' list.toList).map (Text.trimBy Unicode.isSpace)
  (pieces.filter (!·.isEmpty)).map String.ofList

def excludeList (configuration : Configuration) : List String := splitNames configuration.excludes

def includeList (configuration : Configuration) : List String := splitNames configuration.includes

/-- The settings of the filter of names. -/
def filterSettings (configuration : Configuration) : FilterSettings where
  excludes := configuration.excludeList.map .text
  includes := configuration.includeList.map .text
  includesPattern := .text configuration.includesPattern
  excludesPattern := .text configuration.excludesPattern

end Configuration

end ContainerWatch
