import ContainerWatch.Journal.Record
import ContainerWatch.Json.Writer

/-!
# Lines of the journal

A record is laid out as a JSON object or as a line for a reader at a terminal.
-/

namespace ContainerWatch.Journal

/-- How records are laid out. -/
inductive Format where
  | json
  | text
  deriving DecidableEq, Repr

namespace Format

/-- The name of a format. -/
def name : Format → String
  | json => "JSONFormatter"
  | text => "TextFormatter"

end Format

/-- A format, and the name of the host, which is empty if it is not to be shown. -/
structure Layout where
  format : Format
  hostname : String
  deriving DecidableEq, Repr

def serviceName : String := "dockwatch"

/-- The last component of the name of a kind. -/
def lastComponent (kindName : String) : String :=
  String.ofList (((Text.piecesAt '.' kindName.toList).getLast?).getD [])

/-- A value as JSON. -/
def jsonOf (value : Value) : Except Fault String :=
  match Json.write value with
  | .ok text => .ok text
  | .error (.noText kindName) =>
      .error (.ofMessage .type (Json.WriteError.noText (lastComponent kindName)).message)
  | .error (.noKey kindName) =>
      .error (.ofMessage .type (Json.WriteError.noKey kindName).message)
  | .error .circular => .error (.ofMessage .value Json.WriteError.circular.message)

/-- An extra attribute as JSON; a value that has no JSON text is shown as a string. -/
def extraJson (value : Value) : String :=
  match Json.write value with
  | .ok text => text
  | .error _ => Json.writeString value.shown

def attributeName (key : Value) : String := key.text?.getD key.shown

def jsonLine (hostname : String) (record : Record) : Except Fault String := do
  let instant ← record.instant
  let message ← record.messageText
  let faultText ← record.note.text?
  let level ← jsonOf record.levelName
  let logger ← jsonOf record.logger
  let extra := record.extra.map fun (key, value) => (attributeName key, extraJson value)
  return Json.writeObject
    ([("timestamp", Json.writeString instant.iso), ("level", level), ("logger", logger),
        ("message", Json.writeString message), ("service", Json.writeString serviceName)]
      ++ (if hostname.isEmpty then [] else [("hostname", Json.writeString hostname)])
      ++ (match faultText with
          | some text => [("exception", Json.writeString text)]
          | none => [])
      ++ (if extra.isEmpty then [] else [("extra", Json.writeObject extra)]))

def levelWidth : Nat := 8

/-- The fault of a value of a kind that cannot be put in a column. -/
def noColumnFault (kindName : String) : Fault :=
  .ofMessage .type ("unsupported format string passed to " ++ kindName ++ ".__format__")

/-- A level in its column: texts to the left, numbers to the right.  An instant takes the width of
    the column for its template, and is that. -/
def levelColumn (level : Value) : Except Fault String :=
  let right (value : Value) : Except Fault String :=
    .ok (String.ofList (Text.padLeft ' ' levelWidth value.quoted.toList))
  match level with
  | .text s => .ok (String.ofList (Text.padRight ' ' levelWidth s.toList))
  | .bool b => right (.int (if b then 1 else 0))
  | .int n => right (.int n)
  | .float x => right (.float x)
  | .foreign f =>
      if f.kindName = "datetime.datetime" then .ok "8" else .error (noColumnFault f.kindName)
  | value => .error (noColumnFault value.kindName)

def textLine (hostname : String) (record : Record) : Except Fault String := do
  let instant ← record.instant
  let level ← levelColumn record.levelName
  let message ← record.messageText
  let host := if hostname.isEmpty then "" else " [" ++ hostname ++ "]"
  let line := "[" ++ instant.clock ++ "] " ++ level ++ host ++ " " ++ record.logger.shown ++ ": "
    ++ message
  match ← record.note.text? with
  | some text => return line ++ "\n" ++ text
  | none => return line

namespace Layout

/-- A record laid out. -/
def line (layout : Layout) (record : Record) : Except Fault String :=
  match layout.format with
  | .json => jsonLine layout.hostname record
  | .text => textLine layout.hostname record

end Layout

end ContainerWatch.Journal
