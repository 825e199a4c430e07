import ContainerWatch.Journal.Layout
import ContainerWatch.Text.Pieces
import ContainerWatch.Unicode.Case

/-!
# The logbook

Where the journal goes.  A logbook has sinks, one of which writes to the output once it is set up, a
threshold for all records, and thresholds of their own for the records of the engine's client.
-/

namespace ContainerWatch.Journal

/-- The sinks of the journal and the thresholds of its records.  A sink without a layout is one that
    was there before and does not write to the output. -/
structure Logbook where
  sinks : List (Option Layout)
  threshold : Int
  /-- The threshold of the chatty loggers, zero as long as they have none. -/
  quietThreshold : Int
  deriving Repr

namespace Logbook

/-- The loggers of the engine's client, which are chatty. -/
def quietLoggers : List String := ["docker", "urllib3"]

/-- What the name of a level stands for: a level, or something that is none. -/
inductive LevelChoice where
  | level (number : Int)
  | messageFormat
  | styleTable
  deriving DecidableEq, Repr

/-- What a name in capitals stands for; a name that means nothing stands for the level of
    information. -/
def levelChoice (name : String) : LevelChoice :=
  if name = "CRITICAL" ∨ name = "FATAL" then .level 50
  else if name = "ERROR" then .level 40
  else if name = "WARNING" ∨ name = "WARN" then .level 30
  else if name = "INFO" then .level 20
  else if name = "DEBUG" then .level 10
  else if name = "NOTSET" then .level 0
  else if name = "BASIC_FORMAT" then .messageFormat
  else if name = "_STYLES" then .styleTable
  else .level 20

def braced (name : String) : String := "\x7b" ++ name ++ "\x7d"

/-- The format of a message in the percent style. -/
def percentFormat : String := "%(levelname)s:%(name)s:%(message)s"

/-- The text of the table of styles. -/
def styleTableText : String :=
  let braces := braced "levelname" ++ ":" ++ braced "name" ++ ":" ++ braced "message"
  let dollars := "$" ++ braced "levelname" ++ ":$" ++ braced "name" ++ ":$" ++ braced "message"
  let style (mark name format : String) : String :=
    Text.quoted mark ++ ": (<class 'logging." ++ name ++ "'>, " ++ Text.quoted format ++ ")"
  braced (String.intercalate ", "
    [style "%" "PercentStyle" percentFormat, style "\x7b" "StrFormatStyle" braces,
      style "$" "StringTemplateStyle" dollars])

/-- The threshold that a name stands for. -/
def thresholdNamed (name : String) : Except Fault Int :=
  match levelChoice (String.ofList (Unicode.upperText name.toList)) with
  | .level number => .ok number
  | .messageFormat => .error (.ofMessage .value ("Unknown level: " ++ Text.quoted percentFormat))
  | .styleTable =>
      .error (.ofMessage .type
        ("Level not an integer or a valid string: " ++ styleTableText))

/-- The format that a name stands for; whatever is not JSON is text. -/
def formatNamed (name : String) : Format :=
  if Unicode.lowerText name.toList = "json".toList then .json else .text

/-- The logbook without a sink, if that is one of its sinks. -/
def removeSink (logbook : Logbook) (sink : Option Layout) : Logbook :=
  { logbook with sinks := logbook.sinks.erase sink }

/-- The logbook with a new sink after all others. -/
def addSink (logbook : Logbook) (sink : Option Layout) : Logbook :=
  { logbook with sinks := logbook.sinks ++ [sink] }

/-- The logbook with the threshold of warnings for the chatty loggers. -/
def quieten (logbook : Logbook) : Logbook := { logbook with quietThreshold := 30 }

/-- Set the threshold that is named, put a single sink for the output in the place of all sinks, and
    quieten the chatty loggers.  The sinks are removed one after the other, as they stood in a copy
    of their list. -/
def setUp (format level hostname : String) (logbook : Logbook) : Except Fault Logbook := do
  let threshold ← thresholdNamed level
  let levelled := { logbook with threshold := threshold }
  let bare := levelled.sinks.foldl removeSink levelled
  return (bare.addSink (some ⟨formatNamed format, hostname⟩)).quieten

/-- Set the logbook up several times. -/
def setUpTimes (format level hostname : String) : Nat → Logbook → Except Fault Logbook
  | 0, logbook => .ok logbook
  | count + 1, logbook => do
      setUpTimes format level hostname count (← setUp format level hostname logbook)

/-- A logger, told by its name, and the names of the other loggers that there are when its threshold
    is looked up, which is done once for each level. -/
structure Logger where
  name : String
  others : List String := []
  deriving DecidableEq, Repr

/-- A name stands for the logger of that name, beside which there are only the chatty ones. -/
instance : Coe String Logger := ⟨fun name => { name }⟩

/-- The names above one that is given from its end on, among those of some loggers.  The name is cut
    at its dots, from the last one on, and the first part that is the name of a logger is right above
    it.  A part that is none is cut further on, but not in front of its last character. -/
def namesAbove (loggers : List String) : List Char → List String
  | [] => []
  | [_] => []
  | mark :: last :: rest =>
      if mark = '.' then
        let part := String.ofList (last :: rest).reverse
        if loggers.contains part then
          part :: namesAbove loggers (last :: rest)
        else
          namesAbove loggers rest
      else
        namesAbove loggers (last :: rest)

namespace Logger

/-- Whether a logger has a name or is below the logger that has it. -/
def isBelow (root : String) (logger : Logger) : Bool :=
  logger.name == root ||
    (namesAbove (quietLoggers ++ logger.others) logger.name.toList.reverse).contains root

/-- Whether a logger is a chatty one or below one. -/
def isQuiet (logger : Logger) : Bool := quietLoggers.any (isBelow · logger)

end Logger

/-- The threshold of a logger's records. -/
def thresholdOf (logbook : Logbook) (logger : Logger) : Int :=
  if logbook.quietThreshold ≠ 0 ∧ logger.isQuiet then
    logbook.quietThreshold
  else
    logbook.threshold

/-- Whether a record of a logger and a level is written. -/
def admits (logbook : Logbook) (logger : Logger) (level : Int) : Bool :=
  0 < level && logbook.thresholdOf logger ≤ level

/-- What the sinks write to the output for a record; a record that cannot be laid out is left out. -/
def write (logbook : Logbook) (record : Record) : String :=
  String.join (logbook.sinks.map fun
    | some layout =>
        match layout.line record with
        | .ok line => line ++ "\n"
        | .error _ => ""
    | none => "")

/-- The attributes of a record that none of its extra attributes may be named for. -/
def reservedAttributes : List String :=
  ["message", "asctime", "name", "msg", "args", "levelname", "levelno", "pathname", "filename",
    "module", "exc_info", "exc_text", "stack_info", "lineno", "funcName", "created", "msecs",
    "relativeCreated", "thread", "threadName", "processName", "process"]

/-- The name of a logger as its records show it: the one without a name is the root. -/
def loggerName (logger : String) : String := if logger.isEmpty then "root" else logger

/-- The number of a level, which has to be an integer. -/
def levelNumber (level : Value) : Except Fault Int :=
  match level with
  | .int n => .ok n
  | .bool b => .ok (if b then 1 else 0)
  | _ => .error (.ofMessage .type "level must be an integer")

/-- The record of a message with extra attributes, none of which may be named for a reserved one. -/
def makeRecord (logger : String) (level message : Value) (extra : List (String × Value))
    (created : Value) : Except Fault Record := do
  let levelName ← Record.levelNameOf level
  match extra.find? fun (name, _) => reservedAttributes.contains name with
  | some (name, _) =>
      throw (.ofMessage .key ("Attempt to overwrite " ++ Text.quoted name ++ " in LogRecord"))
  | none =>
      let record : Record := {
        logger := .text (loggerName logger)
        levelName := levelName
        message := message
        args := .tuple []
        created := created
        note := .absent
        extra := [] }
      return record.setAll extra

/-- Log a message with extra attributes: what is written to the output. -/
def log (logbook : Logbook) (logger : Logger) (level message : Value)
    (extra : List (String × Value)) (created : Value) : Except Fault String := do
  let number ← levelNumber level
  if logbook.admits logger number then
    return logbook.write (← makeRecord logger.name level message extra created)
  else
    return ""

/-- What is written to the output for an entry of the program's own. -/
def logEntry (logbook : Logbook) (entry : Entry) (created : Value) : String :=
  if logbook.admits entry.part.name entry.level.number then
    logbook.write (.ofEntry entry created)
  else
    ""

end Logbook

end ContainerWatch.Journal
