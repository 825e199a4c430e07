import ContainerWatch.Value.Printed

/-!
# Faults

What can go wrong, as one kind of value: the kind of a fault, the values it was built from and the
fault that led to it.  A fault has a text, which is computed from its values, and a form that names
its kind.
-/

namespace ContainerWatch

/-- The failures that the operating system tells apart. -/
inductive SystemFault where
  | unspecified
  | blocked
  | brokenPipe
  | childProcess
  | connectionAborted
  | connectionRefused
  | connectionReset
  | fileExists
  | fileNotFound
  | isDirectory
  | notDirectory
  | interrupted
  | permission
  | processLookup
  | timeout
  deriving DecidableEq, Repr

namespace SystemFault

/-- The failure that an error number of the operating system stands for. -/
def ofErrorNumber (number : Int) : SystemFault :=
  if number = 11 ∨ number = 114 ∨ number = 115 then blocked
  else if number = 32 ∨ number = 108 then brokenPipe
  else if number = 10 then childProcess
  else if number = 103 then connectionAborted
  else if number = 111 then connectionRefused
  else if number = 104 then connectionReset
  else if number = 17 then fileExists
  else if number = 2 then fileNotFound
  else if number = 21 then isDirectory
  else if number = 20 then notDirectory
  else if number = 4 then interrupted
  else if number = 1 ∨ number = 13 then permission
  else if number = 3 then processLookup
  else if number = 110 then timeout
  else unspecified

/-- The name under which a failure is reported. -/
def name : SystemFault → String
  | unspecified => "OSError"
  | blocked => "BlockingIOError"
  | brokenPipe => "BrokenPipeError"
  | childProcess => "ChildProcessError"
  | connectionAborted => "ConnectionAbortedError"
  | connectionRefused => "ConnectionRefusedError"
  | connectionReset => "ConnectionResetError"
  | fileExists => "FileExistsError"
  | fileNotFound => "FileNotFoundError"
  | isDirectory => "IsADirectoryError"
  | notDirectory => "NotADirectoryError"
  | interrupted => "InterruptedError"
  | permission => "PermissionError"
  | processLookup => "ProcessLookupError"
  | timeout => "TimeoutError"

end SystemFault

/-- The kind of a fault. -/
inductive FaultKind where
  /-- Reported by the container engine. -/
  | engine
  /-- Reported by the operating system. -/
  | system (detail : SystemFault)
  /-- A value outside the range of an operation. -/
  | value
  /-- A value of the wrong kind. -/
  | type
  /-- A missing key. -/
  | key
  /-- A missing place of a sequence. -/
  | index
  /-- A value that lacks what was asked of it. -/
  | lacking
  /-- A number that does not fit. -/
  | overflow
  /-- A text for which there is no room. -/
  | memory
  /-- A fault of a running program. -/
  | runtime
  /-- A fault inside the machinery of searching. -/
  | internal
  /-- A fault that says nothing about its kind. -/
  | general
  /-- A search pattern that cannot be read. -/
  | pattern
  /-- A change of something fixed. -/
  | frozen
  /-- A channel without room. -/
  | full
  /-- A fault of this program. -/
  | program
  /-- A setting that cannot be used, with its name and the rejected pattern. -/
  | setting (field pattern : Value)
  /-- The engine could not be reached, listed or watched. -/
  | collecting
  /-- The listener stopped without being asked to, for a reason. -/
  | listening (reason : Value)

namespace FaultKind

/-- The name under which a kind of fault is reported. -/
def name : FaultKind → String
  | engine => "DockerException"
  | system detail => detail.name
  | value => "ValueError"
  | type => "TypeError"
  | key => "KeyError"
  | index => "IndexError"
  | lacking => "AttributeError"
  | overflow => "OverflowError"
  | memory => "MemoryError"
  | runtime => "RuntimeError"
  | internal => "SystemError"
  | general => "Exception"
  | pattern => "error"
  | frozen => "FrozenInstanceError"
  | full => "Full"
  | program => "DockwatchError"
  | setting .. => "ConfigError"
  | collecting => "CollectorError"
  | listening _ => "ListenerError"

/-- Where the kinds of faults that are not built in are declared. -/
def home : FaultKind → Option String
  | engine => some "docker.errors"
  | pattern => some "re"
  | frozen => some "dataclasses"
  | full => some "queue"
  | program | setting .. | collecting | listening _ => some "dockwatch.errors"
  | _ => none

/-- The name of a kind behind its place of declaration. -/
def fullName (kind : FaultKind) : String :=
  match kind.home with
  | some place => place ++ "." ++ kind.name
  | none => kind.name

/-- The kinds of this program that a kind belongs to, from the narrowest to the widest. -/
def lineage : FaultKind → List FaultKind
  | program => [program]
  | setting field rejected => [setting field rejected, program]
  | collecting => [collecting, program]
  | listening reason => [listening reason, collecting, program]
  | _ => []

/-- Whether a fault is one of the engine. -/
def isEngine : FaultKind → Bool
  | engine => true
  | _ => false

/-- Whether a fault is one of the engine or of the operating system. -/
def isTransport : FaultKind → Bool
  | engine | system _ => true
  | _ => false

/-- Whether a fault is one of the engine, of the operating system or of a value's range. -/
def endsReading : FaultKind → Bool
  | engine | system _ | value => true
  | _ => false

/-- Whether a fault means that the engine could not be reached, listed or watched. -/
def isCollecting : FaultKind → Bool
  | collecting | listening _ => true
  | _ => false

/-- Whether a fault is one of an unusable setting. -/
def isSetting : FaultKind → Bool
  | setting .. => true
  | _ => false

end FaultKind

/-- Something that went wrong. -/
structure Fault where
  kind : FaultKind
  args : List Value
  cause : Option Fault

instance : Inhabited Fault := ⟨⟨.general, [], none⟩⟩

namespace Fault

def ofMessage (kind : FaultKind) (message : String) : Fault := ⟨kind, [.text message], none⟩

/-- The text of a fault: nothing, its one value, or all its values.  A missing key is quoted, and a
    fault of the operating system shows its number before its message. -/
def text (fault : Fault) : String :=
  match fault.kind, fault.args with
  | .system _, [number, message] => "[Errno " ++ number.shown ++ "] " ++ message.shown
  | .key, [key] => key.quoted
  | _, [] => ""
  | _, [value] => value.shown
  | _, values => (Value.tuple values).quoted

/-- The form of a fault inside values. -/
def quoted (fault : Fault) : String :=
  fault.kind.name ++ Value.bracketed "(" (fault.args.map (·.quoted)) ")"

/-- A fault in a line of its own, behind its kind. -/
def line (fault : Fault) : String :=
  let text := fault.text
  if text.isEmpty then fault.kind.fullName else fault.kind.fullName ++ ": " ++ text

/-- What stands between a fault and the one that it led to. -/
def causeLine : String :=
  "\n\nThe above exception was the direct cause of the following exception:\n\n"

/-- A fault behind the faults that led to it. -/
def trail : Fault → String
  | ⟨kind, args, none⟩ => line ⟨kind, args, none⟩
  | ⟨kind, args, some cause⟩ => trail cause ++ causeLine ++ line ⟨kind, args, none⟩

/-- A fault as a value. -/
def toValue (fault : Fault) : Value :=
  .foreign ⟨fault.kind.name, fault.text, fault.quoted, false, some fault.trail⟩

/-- A fault of the operating system with its error number, which tells its failure if it is one, and a
    message. -/
def system (number message : Value) : Fault :=
  let detail := match number with
    | .int n => SystemFault.ofErrorNumber n
    | .bool b => SystemFault.ofErrorNumber (if b then 1 else 0)
    | _ => .unspecified
  ⟨.system detail, [number, message], none⟩

/-- A setting that cannot be used. -/
def setting (field message pattern : Value) (cause : Option Fault) : Fault :=
  ⟨.setting field pattern, [.text ("invalid " ++ field.shown ++ ": " ++ message.shown)], cause⟩

/-- The engine could not be reached, listed or watched, because of another fault. -/
def collecting (what : String) (cause : Fault) : Fault :=
  ⟨.collecting, [.text (what ++ ": " ++ cause.text)], some cause⟩

/-- The listener stopped for a reason. -/
def listening (reason : Value) (cause : Option Fault) : Fault :=
  ⟨.listening reason, [.text ("event listener failed: " ++ reason.shown)], cause⟩

/-- A value that cannot be a key. -/
def unhashable (kindName : String) : Fault :=
  ofMessage .type ("unhashable type: '" ++ kindName ++ "'")

/-- A value that is to be a key, which has to be one that could be. -/
def asKey (value : Value) : Except Fault Value :=
  match value.unhashable? with
  | some kindName => .error (unhashable kindName)
  | none => .ok value

/-- Two values that have no order. -/
def unordered (first second : Value) : Fault :=
  ofMessage .type ("'<' not supported between instances of '" ++ second.kindName ++ "' and '"
    ++ first.kindName ++ "'")

/-- A value that lacks an attribute. -/
def lacking (kindName name : String) : Fault :=
  ofMessage .lacking ("'" ++ kindName ++ "' object has no attribute '" ++ name ++ "'")

end Fault

end ContainerWatch
