import ContainerWatch.Configuration
import ContainerWatch.Journal.Logbook
import ContainerWatch.Watcher.Opening
import ContainerWatch.Watcher.Settling

/-!
# Sessions

A session of the program: it connects to the engine, opens a watcher and writes an entry for every
notice, until the listener fails or somebody interrupts the program; then it closes the client and
exits.  Losing the event feed is fatal, so that a supervisor can start the program again.

An interrupt is heeded where the session waits for a notice, so that a notice that it was handed is
always written down first.  The read that is given up may still take one more notice, which is lost.
-/

namespace ContainerWatch

open Engine Journal

/-- How a session ends: with an exit status, or in a fault that nothing in the program handles. -/
abbrev Outcome := Except Fault Nat

namespace Session

/-- The phases of a session. -/
inductive Phase where
  | connecting
  /-- The client is connected and a watcher is to be opened. -/
  | opening
  /-- The notices of a watcher are read. -/
  | consuming
  /-- The session was interrupted and gives up its reading. -/
  | interrupted
  /-- The session was interrupted and has asked the listener to stop. -/
  | stopping (call : Nat)
  /-- The client is to be closed. -/
  | leaving (outcome : Outcome)
  | done (outcome : Outcome)

/-- What happens next in a session. -/
inductive Move where
  /-- The program itself takes a step. -/
  | advance
  /-- The listener takes a step. -/
  | listen
  /-- The engine puts an item on the stream. -/
  | deliver (item : StreamItem)
  /-- Somebody interrupts the program. -/
  | interrupt
  /-- The read that was under way when the program was interrupted comes to its end. -/
  | straggle

end Session

/-- A session of the program. -/
structure Session where
  configuration : Configuration
  client : Client
  logbook : Logbook
  phase : Session.Phase
  /-- How the client was connected, once it is. -/
  connection : Option Connection
  watch : Option Watcher.Watch
  /-- How often the client was closed. -/
  clientCloses : Nat
  journal : List Entry

namespace Session

/-- The logbook before the program sets it up: it has no sinks. -/
def bareLogbook : Logbook := ⟨[], 30, 0⟩

/-- A session before its first step, with the logbook set up. -/
def start (configuration : Configuration) (hostname : String) (client : Client) : Session :=
  let setUp := bareLogbook.setUp configuration.logFormat configuration.logLevel hostname
  {
    configuration := configuration
    client := client
    logbook := setUp.toOption.getD bareLogbook
    phase := match setUp with
      | .ok _ => .connecting
      | .error fault => .done (.error fault)
    connection := none
    watch := none
    clientCloses := 0
    journal := [] }

/-- The session with entries added to the journal. -/
def write (session : Session) (entries : List Entry) : Session :=
  { session with journal := session.journal ++ entries }

/-- The session with an entry of the program itself added to the journal. -/
def note (session : Session) (level : Level) (message : String) : Session :=
  session.write [.plain level .command message]

def inPhase (session : Session) (phase : Phase) : Session := { session with phase := phase }

/-- What a watcher is opened with. -/
def options (configuration : Configuration) : Watcher.Options where
  settings := configuration.filterSettings
  bufferSize := configuration.bufferSize
  callback := .absent

/-- Connect to the engine. -/
def connect (session : Session) : Session :=
  match session.client.connect with
  | .ok () =>
      let connection := Connection.forAddress (.text session.configuration.engineAddress)
        (.int session.configuration.engineTimeout)
      { session with connection := some connection }.inPhase .opening
  | .error fault =>
      if fault.kind.isCollecting then
        (session.note .error ("Failed to connect to docker: " ++ fault.text)).inPhase (.done (.ok 1))
      else
        session.inPhase (.done (.error fault))

/-- Open a watcher, and begin to read its notices. -/
def openWatcher (session : Session) : Session :=
  let report := (Watcher.openWith (options session.configuration) session.client).report
  let opened := session.write report.entries
  match report.outcome with
  | .ok watch => { opened with watch := some (watch.move .openReader) }.inPhase .consuming
  | .error fault =>
      if fault.kind.isSetting || fault.kind.isCollecting then
        (opened.note .error ("Failed to create event notifier: " ++ fault.text)).inPhase
          (.leaving (.ok 1))
      else
        opened.inPhase (.leaving (.error fault))

/-- The session after a move of its watcher, with what the watcher wrote. -/
def moveWatch (session : Session) (watch : Watcher.Watch) (move : Watcher.Move) : Session :=
  let next := watch.move move
  { session with watch := some next }.write
    (next.state.journal.drop watch.state.journal.length)

/-- The entry that is written for a notice. -/
def noticeEntry (notice : Notice) : Entry :=
  let change := if notice.status.isTruthy then "started" else "stopped"
  ⟨.info, .command, "container " ++ notice.name.shown ++ " " ++ change, notice.fields, none⟩

/-- Go on reading notices. -/
def consume (session : Session) (watch : Watcher.Watch) : Session :=
  match watch.state.reader with
  | some (.yielded notice) => (session.write [noticeEntry notice]).moveWatch watch .read
  | some .ended => session.inPhase (.leaving (.ok 0))
  | some (.raised failure) =>
      (session.note .error ("Exiting, " ++ failure.text)).inPhase (.leaving (.ok 1))
  | _ => session.moveWatch watch .read

/-- Go on with the call that asks the listener to stop. -/
def pursueStop (session : Session) (watch : Watcher.Watch) (call : Nat) : Session :=
  match watch.state.stops[call]? with
  | some (.returned _) => session.inPhase (.leaving (.ok 0))
  | some (.raised fault) => session.inPhase (.leaving (.error fault))
  | _ => session.moveWatch watch (.stop call)

/-- Close the client and exit.  A fault of closing takes the place of the outcome. -/
def leave (session : Session) (outcome : Outcome) : Session :=
  let report := session.client.close
  let closed := { session with clientCloses := session.clientCloses + 1 }.write report.entries
  match report.outcome with
  | .ok () => closed.inPhase (.done outcome)
  | .error fault => closed.inPhase (.done (.error fault))

/-- Ask the listener to stop, once the reading is given up. -/
def shutDown (session : Session) (watch : Watcher.Watch) : Session :=
  ((session.note .info "Interrupted, shutting down").moveWatch watch .callStop).inPhase
    (.stopping watch.state.stops.length)

/-- A step of the program itself. -/
def advance (session : Session) : Session :=
  match session.phase, session.watch with
  | .connecting, _ => session.connect
  | .opening, _ => session.openWatcher
  | .consuming, some watch => session.consume watch
  | .interrupted, some watch => session.shutDown watch
  | .stopping call, some watch => session.pursueStop watch call
  | .leaving outcome, _ => session.leave outcome
  | _, _ => session

/-- Whether a reader waits for a notice. -/
def isPolling : Option Watcher.Reader → Bool
  | some .polling => true
  | _ => false

/-- Whether a reader heeds an interrupt: it waits for a notice, or has come to its end. -/
def heedsInterrupt : Option Watcher.Reader → Bool
  | some .polling | some .ended => true
  | _ => false

/-- Somebody interrupts the program while it reads notices.  A reader that does something else first
    heeds the interrupt when it waits again. -/
def interrupt (session : Session) : Session :=
  match session.phase, session.watch with
  | .consuming, some watch =>
      if heedsInterrupt watch.state.reader then session.inPhase .interrupted else session
  | _, _ => session

/-- The read that was under way when the program was interrupted comes to its end.  A notice that it
    takes is lost. -/
def straggle (session : Session) : Session :=
  match session.phase, session.watch with
  | .interrupted, some watch =>
      if isPolling watch.state.reader then session.moveWatch watch .read else session
  | _, _ => session

/-- A move of the session's watcher, if it has one. -/
def watcherMoves (session : Session) (move : Watcher.Move) : Session :=
  match session.watch with
  | some watch => session.moveWatch watch move
  | none => session

/-- The session after a move. -/
def step (session : Session) : Move → Session
  | .advance => session.advance
  | .listen => session.watcherMoves .listen
  | .deliver item => session.watcherMoves (.deliver item)
  | .interrupt => session.interrupt
  | .straggle => session.straggle

def run (session : Session) (moves : List Move) : Session := moves.foldl step session

/-- The outcome of a session that is over. -/
def outcome? (session : Session) : Option Outcome :=
  match session.phase with
  | .done outcome => some outcome
  | _ => none

/-- Whether the session is in the middle of closing the feed, which nothing delays. -/
def isClosingFeed (session : Session) : Bool :=
  match session.phase, session.watch with
  | .stopping call, some watch =>
      match watch.state.stops[call]? with
      | none | some .waiting | some (.returned _) | some (.raised _) => false
      | some _ => true
  | _, _ => false

/-- The session once the listener rests. -/
def settled (session : Session) : Session :=
  match session.watch with
  | none => session
  | some watch =>
      let state := Watcher.settle watch.setup false watch.state
      { session with watch := some { watch with state := state } }.write
        (state.journal.drop watch.state.journal.length)

/-- A turn of a session whose listener is always faster than the program itself. -/
def turn (interrupted : Bool) (session : Session) : Session :=
  if session.isClosingFeed then session.advance
  else
    match session.settled.phase with
    | .consuming => if interrupted then session.settled.interrupt else session.settled.advance
    | _ => session.settled.advance

/-- Whether the session waits for the engine: the listener rests and there is no notice to read. -/
def isWaiting (session : Session) : Bool :=
  match session.phase, session.watch with
  | .consuming, some watch =>
      let state := watch.state
      isPolling state.reader && state.channel.isEmpty && state.failure.isNone && state.isRunning
        && Watcher.isAtRest false state
  | _, _ => false

/-- Whether the session is over or, unless it is to be interrupted, waits for the engine. -/
def isStill (interrupted : Bool) (session : Session) : Bool :=
  session.outcome?.isSome || (!interrupted && session.isWaiting)

/-- The session after a number of turns, or as soon as it is still. -/
def afterTurns (interrupted : Bool) : Nat → Session → Session
  | 0, session => session
  | turns + 1, session =>
      if session.isStill interrupted then session
      else afterTurns interrupted turns (session.turn interrupted)

/-- How many notices wait on the channel, and how many items of the stream nobody has read. -/
def backlog (session : Session) : Nat :=
  match session.watch with
  | none => session.client.containers.length + session.client.items.length
  | some watch => watch.state.channel.length + watch.state.feed.stream.items.length

/-- A number of turns after which a session is still: two for each notice, and some to begin and to
    end with. -/
def turnsFor (session : Session) : Nat := 2 * session.backlog + 20

/-- The session once it is still.  It may be interrupted as soon as it reads notices. -/
def proceed (interrupted : Bool) (session : Session) : Session :=
  afterTurns interrupted session.turnsFor session

/-- What the session wrote to the output: the name of the writer and the text for each entry that is
    not filtered out. -/
def output (session : Session) (created : Value) : List (String × String) :=
  session.journal.filterMap fun entry =>
    let text := session.logbook.logEntry entry created
    if text.isEmpty then none else some (entry.part.name, text)

end Session

end ContainerWatch
