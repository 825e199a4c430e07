import ContainerWatch.Engine.Payload
import ContainerWatch.Journal.Entry
import ContainerWatch.Journal.Template

/-!
# Journal records

A record is what is laid out as a line of the journal.  It has standard attributes and extra ones;
giving an extra attribute the name of a standard one replaces that.
-/

namespace ContainerWatch.Journal

/-- What a record says about a fault: nothing, that there is none, the fault, or a value that was put
    in its place. -/
inductive FaultNote where
  | absent
  | blank
  | fault (fault : Fault)
  | other (value : Value)

/-- A record of the journal. -/
structure Record where
  logger : Value
  levelName : Value
  message : Value
  /-- The arguments of the message if that is a template, and otherwise nothing. -/
  args : Value
  /-- When the record was made, in seconds. -/
  created : Value
  note : FaultNote
  extra : Entries

namespace Record

/-- The levels that have names. -/
def levelNames : List (Int × String) :=
  [(50, "CRITICAL"), (40, "ERROR"), (30, "WARNING"), (20, "INFO"), (10, "DEBUG"), (0, "NOTSET")]

/-- The names by which levels are called, with their numbers. -/
def levelNumbers : List (String × Int) :=
  [("CRITICAL", 50), ("FATAL", 50), ("ERROR", 40), ("WARN", 30), ("WARNING", 30), ("INFO", 20),
    ("DEBUG", 10), ("NOTSET", 0)]

/-- What a level is called.  A name of a level is called by its number, and a level without a name is
    numbered. -/
def levelNameOf (level : Value) : Except Fault Value :=
  match level.unhashable? with
  | some kindName => .error (.unhashable kindName)
  | none =>
      let named := levelNames.find? fun (number, _) => level.sameKey (.int number)
      let numbered := level.text?.bind fun name => levelNumbers.lookup name
      .ok (match named, numbered with
        | some (_, name), _ => .text name
        | none, some number => .int number
        | none, none => .text ("Level " ++ level.shown))

/-- The standard attributes that nothing is laid out from. -/
def silentAttributes : List String :=
  ["filename", "funcName", "levelno", "lineno", "module", "msecs", "pathname", "process",
    "processName", "relativeCreated", "stack_info", "exc_text", "thread", "threadName",
    "taskName", "message"]

/-- The record with an attribute set. -/
def set (record : Record) (name : String) (value : Value) : Record :=
  if name = "name" then { record with logger := value }
  else if name = "msg" then { record with message := value }
  else if name = "args" then { record with args := value }
  else if name = "levelname" then { record with levelName := value }
  else if name = "created" then { record with created := value }
  else if name = "exc_info" then
    { record with note := if value.isTruthy then .other value else .absent }
  else if silentAttributes.contains name then record
  else { record with extra := Entries.put (.text name) value record.extra }

/-- The record with several attributes set, one after the other. -/
def setAll (record : Record) (attributes : List (String × Value)) : Record :=
  attributes.foldl (fun record (name, value) => record.set name value) record

/-- The arguments of a message: a single dictionary stands for itself, if anything is in it. -/
def argsOf (args : List Value) : Value :=
  match args with
  | [.dict (entry :: entries)] => .dict (entry :: entries)
  | args => .tuple args

/-- The record of an entry of the program's own. -/
def ofEntry (entry : Entry) (created : Value) : Record where
  logger := .text entry.part.name
  levelName := .text entry.level.name
  message := .text entry.message
  args := .tuple []
  created := created
  note := match entry.fault with
    | some fault => .fault fault
    | none => .absent
  extra := entry.fields.map fun (name, value) => (.text name, value)

/-- The message of a record, filled with its arguments if it has any. -/
def messageText (record : Record) : Except Fault String :=
  let text := record.message.shown
  if record.args.isTruthy then
    (Template.fill text record.args).mapError (·.fault)
  else
    .ok text

/-- The instant at which a record was made. -/
def instant (record : Record) : Except Fault Instant := Engine.instantAt record.created

end Record

namespace FaultNote

/-- The item of a value at a place. -/
def itemAt (value : Value) (place : Nat) : Except Fault Value :=
  let among (kindName : String) (items : List Value) : Except Fault Value :=
    match items[place]? with
    | some item => .ok item
    | none => .error (.ofMessage .index (kindName ++ "index out of range"))
  match value with
  | .list items => among "list " items
  | .loop items => among "list " (items ++ [.loop items])
  | .tuple items => among "tuple " items
  | .text s => among "string " (s.toList.map fun c => .text c.toString)
  | .bytes values => among "" (values.map fun (n : Nat) => .int n)
  | .dict entries =>
      match entries.find? fun entry => entry.1.sameKey (.int place) with
      | some (_, item) => .ok item
      | none => .error ⟨.key, [.int place], none⟩
  | value =>
      .error (.ofMessage .type ("'" ++ value.kindName ++ "' object is not subscriptable"))

/-- What stands for no fault. -/
def blankText : String := "NoneType: None"

/-- A value in place of a fault in words.  Its items are the kind of a fault, the fault, and the way
    to it, which is not recorded here and so has to be null. -/
def otherText (value : Value) : Except Fault String := do
  let way ← itemAt value 2
  let _ ← itemAt value 0
  let fault ← itemAt value 1
  match way, fault with
  | .null, .null => return blankText
  | .null, fault =>
      match fault with
      | .foreign ⟨_, _, _, _, some trail⟩ => return trail
      | fault => throw (.lacking fault.kindName "__suppress_context__")
  | way, _ => throw (.lacking way.kindName "tb_frame")

/-- What a record says about a fault in words. -/
def text? : FaultNote → Except Fault (Option String)
  | absent => .ok none
  | blank => .ok (some blankText)
  | fault f => .ok (some f.trail)
  | other value => (otherText value).map some

end FaultNote

end ContainerWatch.Journal
