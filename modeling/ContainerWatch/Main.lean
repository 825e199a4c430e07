import Std.Time.DateTime.Timestamp
import ContainerWatch.Json.Reader
import ContainerWatch.Session

/-!
# The command line

The program hears from the engine through its standard input: the first line lists the running
containers, and every further line is a message of the event feed.  The end of the input is the end
of the feed.  The program writes its journal to the standard output and exits with its status.
-/

namespace ContainerWatch.CommandLine

/-- The variables of the environment that configure the program. -/
def variableNames : List String :=
  ["DOCKWATCH_DOCKER_HOST", "DOCKWATCH_DOCKER_TIMEOUT", "DOCKWATCH_EXCLUDES", "DOCKWATCH_INCLUDES",
    "DOCKWATCH_INCLUDES_PATTERN", "DOCKWATCH_EXCLUDES_PATTERN", "DOCKWATCH_BUFFER_SIZE",
    "DOCKWATCH_LOG_FORMAT", "DOCKWATCH_LOG_LEVEL"]

/-- The environment, as far as it configures the program. -/
def environment : IO (List (String × String)) :=
  variableNames.filterMapM fun name => do
    return (← IO.getEnv name).map fun value => (name, value)

/-- The running containers that a line lists. -/
def containersOf (line : String) : List Value :=
  match Json.read? line with
  | some (.list entries) => entries
  | _ => []

/-- What a line puts on the stream of events. -/
def itemOf (line : String) : Engine.StreamItem :=
  match Json.read? line with
  | some payload => .payload payload
  | none => .failure (.ofMessage .value ("no message: " ++ Text.quoted line))

def now : IO Value := do
  let nanoseconds := (← Std.Time.Timestamp.now).toNanosecondsSinceUnixEpoch.val
  return .float (.ofRatio (nanoseconds < 0) nanoseconds.natAbs 1000000000)

/-- Write the entries behind a number of earlier ones to the output. -/
def report (output : IO.FS.Stream) (earlier : Nat) (session : Session) : IO Unit := do
  let created ← now
  for entry in session.journal.drop earlier do
    output.putStr (session.logbook.logEntry entry created)
  output.flush

/-- Go on with a session until it is still, and write what it wrote to the output. -/
def proceed (output : IO.FS.Stream) (earlier : Nat) (session : Session) : IO Session := do
  let next := session.proceed false
  report output earlier next
  return next

/-- Pass the lines of the input to a session until it is over. -/
partial def pass (input output : IO.FS.Stream) (session : Session) : IO Session := do
  if session.outcome?.isSome then
    return session
  let line ← input.getLine
  let item := if line.isEmpty then .finish else itemOf line
  let earlier := session.journal.length
  pass input output (← proceed output earlier (session.step (.deliver item)))

def statusOf (session : Session) : IO UInt32 := do
  match session.outcome? with
  | some (.ok status) => return status.toUInt32
  | some (.error fault) =>
      IO.eprintln (fault.kind.name ++ ": " ++ fault.text)
      return 1
  | none => return 1

def run : IO UInt32 := do
  match Configuration.ofEnvironment (← environment) with
  | .error errors =>
      for error in errors do
        IO.eprintln (error.field ++ ": " ++ error.flaw.message)
      return 1
  | .ok configuration =>
      let input ← IO.getStdin
      let output ← IO.getStdout
      let hostname := (← IO.getEnv "HOSTNAME").getD ""
      let client : Engine.Client := { containers := containersOf (← input.getLine) }
      let session ← proceed output 0 (.start configuration hostname client)
      statusOf (← pass input output session)

end ContainerWatch.CommandLine

/-- Run the program. -/
def main : IO UInt32 := ContainerWatch.CommandLine.run
