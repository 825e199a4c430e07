import ContainerWatch.Watcher.Opening
import ContainerWatch.Watcher.Settling
import ContainerWatch.Watcher.Waiting

/-!
# Rehearsals

A rehearsal runs a watcher by a script.  After every action of the script the listener is run until
it rests, so that a script has one outcome, and what can be seen from outside is written down.
-/

namespace ContainerWatch.Watcher

open Engine Journal

/-- What a script does while a reader may be at work. -/
inductive Interjection where
  /-- The engine puts items on the stream. -/
  | deliver (items : List StreamItem)
  /-- The listener is asked to stop, and waited for. -/
  | stop (timeout : Timeout)

/-- A notice that arrives, together with a failure, while somebody looks at the channel, and whether
    that look still sees it. -/
structure LateNotice where
  notice : Notice
  seen : Bool

/-- An action of a script. -/
inductive Action where
  | interject (interjection : Interjection)
  /-- Subscriptions are no longer held back. -/
  | release
  /-- Up to a number of notices are taken without waiting. -/
  | take (count : Nat)
  /-- Somebody waits for the listener to exit. -/
  | wait (timeout : Timeout)
  /-- All notices are read, up to a number.  Each time the reader waits in vain the next of some
      interjections happens.  A late notice is kept for the next look at the channel, which may be one
      of a later action. -/
  | readAll (limit : Option Nat) (later : List Interjection) (late : Option LateNotice)

/-- Why a reading of all notices came to its end. -/
inductive ReadingEnd where
  | limit
  | ended
  | raised (failure : Fault)
  /-- It would wait for ever. -/
  | waiting

/-- What an action comes to. -/
inductive Result where
  | nothing
  /-- Some notices were taken; there may have been fewer than wanted. -/
  | taken (notices : List Notice) (ranOut : Bool)
  | exited (answer : Bool)
  | raised (fault : Fault)
  | read (notices : List Notice) (ending : ReadingEnd)

/-- What can be seen of a watcher from outside after an action. -/
structure Observation where
  result : Result
  /-- How many notices wait on the channel. -/
  queued : Nat
  capacity : Nat
  running : Bool
  /-- How many items of the stream nobody has read. -/
  unread : Nat
  streamCloses : Nat
  subscriptions : Nat
  failure : Option Fault
  /-- The failures that the owner was told of. -/
  reported : List Fault
  /-- The entries written since the last observation. -/
  entries : List Entry

/-- A watcher under rehearsal. -/
structure Rehearsal where
  setup : Setup
  attended : Attended
  /-- Whether subscriptions are held back. -/
  held : Bool
  /-- What arrives while somebody next looks at the channel. -/
  late : Option LateNotice

namespace Rehearsal

def state (rehearsal : Rehearsal) : State := rehearsal.attended.state

/-- A rehearsal with another state of the watcher. -/
def withState (rehearsal : Rehearsal) (state : State) : Rehearsal :=
  { rehearsal with attended := rehearsal.attended.withState state }

/-- A rehearsal after a turn, before the listener takes its own. -/
def turn (rehearsal : Rehearsal) (turn : Turn) : Rehearsal :=
  { rehearsal with attended := rehearsal.attended.step rehearsal.setup turn }

/-- A rehearsal after a move, before the listener takes its turn. -/
def move (rehearsal : Rehearsal) (move : Move) : Rehearsal := rehearsal.turn (.move move)

/-- A rehearsal once the listener rests. -/
def settled (rehearsal : Rehearsal) : Rehearsal :=
  rehearsal.withState (settle rehearsal.setup rehearsal.held rehearsal.state)

/-- Go on with a stop call until it waits for the listener or is over. -/
def pursueStop (call : Nat) : Nat → Rehearsal → Rehearsal
  | 0, rehearsal => rehearsal
  | steps + 1, rehearsal =>
      match rehearsal.state.stops[call]? with
      | none | some .waiting | some (.returned _) | some (.raised _) => rehearsal
      | some _ => pursueStop call steps (rehearsal.move (.stop call))

/-- The number of steps after which a stop call waits or is over. -/
def stopSteps : Nat := 5

/-- What a stop call came to. -/
def stopResult : Option StopCall → Result
  | some (.returned exited) => .exited exited
  | some (.raised fault) => .raised fault
  | _ => .nothing

/-- Ask the listener to stop, and wait for it. -/
def stop (timeout : Timeout) (rehearsal : Rehearsal) : Result × Rehearsal :=
  let call := rehearsal.state.stops.length
  let pursued := (pursueStop call stopSteps (rehearsal.turn (.callStop { timeout }))).settled
  let ended := pursued.move (.stop call)
  (stopResult ended.state.stops[call]?, ended)

/-- Wait for the listener. -/
def wait (timeout : Timeout) (rehearsal : Rehearsal) : Result × Rehearsal :=
  match rehearsal.attended.wait? { timeout } with
  | some (.ok exited, next) => (.exited exited, { rehearsal with attended := next })
  | some (.error fault, next) => (.raised fault, { rehearsal with attended := next })
  | none => (.nothing, rehearsal)

/-- Put items on the stream. -/
def deliver (items : List StreamItem) (rehearsal : Rehearsal) : Rehearsal :=
  (items.foldl (fun r item => r.move (.deliver item)) rehearsal).settled

/-- An interjection and what it comes to. -/
def interject (rehearsal : Rehearsal) : Interjection → Result × Rehearsal
  | .deliver items => (.nothing, deliver items rehearsal)
  | .stop timeout => stop timeout rehearsal

/-- Whether a result is a fault, after which nothing more of a series happens. -/
def isRaised : Result → Bool
  | .raised _ => true
  | _ => false

/-- An interjection, and those that come after it if it does not end in a fault. -/
def interjectFirst (rehearsal : Rehearsal) (first : Interjection) (later : List Interjection) :
    List Interjection × Rehearsal :=
  let (result, next) := rehearsal.interject first
  (if isRaised result then [] else later, next)

/-- All of some interjections, up to one that ends in a fault. -/
def interjectAll : List Interjection → Rehearsal → Rehearsal
  | [], rehearsal => rehearsal
  | interjection :: interjections, rehearsal =>
      let (result, next) := rehearsal.interject interjection
      if isRaised result then next else interjectAll interjections next

/-- A notice and a failure arrive. -/
def arrive (late : LateNotice) (rehearsal : Rehearsal) : Rehearsal :=
  let failure := Fault.listening (.text terminatedReason) none
  let state := { rehearsal.state.put late.notice with failure := some failure }
  { rehearsal.withState state with late := none }

/-- Somebody looks at the channel: whether there is a notice to be seen. -/
def seesNotice (rehearsal : Rehearsal) : Bool × Rehearsal :=
  match rehearsal.late with
  | some late => (late.seen, arrive late rehearsal)
  | none => (!rehearsal.state.channel.isEmpty, rehearsal)

/-- Take up to a number of notices, and tell whether there were fewer. -/
def takeUpTo : Nat → Rehearsal → List Notice × Bool × Rehearsal
  | 0, rehearsal => ([], false, rehearsal)
  | count + 1, rehearsal =>
      let (seen, looked) := seesNotice rehearsal
      match seen, looked.state.take? with
      | true, some (notice, _) =>
          let (notices, ranOut, last) := takeUpTo count (looked.move .take).settled
          (notice :: notices, ranOut, last)
      | _, _ => ([], true, looked)

/-- The reader looks at the channel. -/
def look (rehearsal : Rehearsal) : Rehearsal :=
  match rehearsal.late, rehearsal.state.reader with
  | some late, some (.judged failure finished) =>
      let arrived := arrive late rehearsal
      if late.seen then
        arrived.move .read
      else
        arrived.withState (arrived.state.readerAt (afterEmpty failure finished))
  | _, _ => rehearsal.move .read

/-- The reader waits in vain, looks for a failure, asks whether the listener is finished, and looks
    at the channel. -/
def checkRound (rehearsal : Rehearsal) : Rehearsal :=
  look (((rehearsal.move .read).move .read).move .read)

/-- Whether a number of notices reaches a limit. -/
def reaches (limit : Option Nat) (count : Nat) : Bool := limit.any fun most => most ≤ count

/-- Go on reading, for a number of turns: the notices that are read, why there are no more, and the
    interjections that are left over. -/
def readOn (limit : Option Nat) : Nat → Nat → List Interjection → Rehearsal →
    List Notice × ReadingEnd × List Interjection × Rehearsal
  | 0, _, later, rehearsal => ([], .waiting, later, rehearsal)
  | turns + 1, count, later, rehearsal =>
      match rehearsal.state.reader with
      | some .ended => ([], .ended, later, rehearsal)
      | some (.raised failure) => ([], .raised failure, later, rehearsal)
      | _ =>
          match rehearsal.state.channel, later with
          | notice :: _, later =>
              let read := (rehearsal.move .read).settled
              if reaches limit (count + 1) then
                ([notice], .limit, later, read.move .closeReader)
              else
                let (notices, ending) := readOn limit turns (count + 1) later (read.move .read)
                (notice :: notices, ending)
          | [], interjection :: later =>
              let (left, next) := rehearsal.interjectFirst interjection later
              readOn limit turns count left next
          | [], [] => readOn limit turns count [] (checkRound rehearsal)

/-- How many items some interjections put on the stream. -/
def deliveredBy (interjections : List Interjection) : Nat :=
  interjections.foldl (fun count interjection =>
    match interjection with
    | .deliver items => count + items.length
    | .stop _ => count) 0

/-- A number of turns in which all that is there or will come can be read. -/
def turnsFor (later : List Interjection) (state : State) : Nat :=
  state.channel.length + state.feed.stream.items.length + deliveredBy later + later.length + 6

/-- Read all notices. -/
def readAll (limit : Option Nat) (later : List Interjection) (late : Option LateNotice)
    (rehearsal : Rehearsal) : Result × Rehearsal :=
  let turns := turnsFor later rehearsal.state
  let (notices, ending, left, last) :=
    readOn limit turns 0 later ({ rehearsal with late := late.or rehearsal.late }.move .openReader)
  (.read notices ending, interjectAll left last)

/-- An action and what it comes to. -/
def act (rehearsal : Rehearsal) : Action → Result × Rehearsal
  | .interject interjection => rehearsal.interject interjection
  | .release => (.nothing, { rehearsal with held := false }.settled)
  | .take count =>
      let (notices, ranOut, last) := takeUpTo count rehearsal
      (.taken notices ranOut, last)
  | .wait timeout => wait timeout rehearsal
  | .readAll limit later late => readAll limit later late rehearsal

/-- What can be seen of a watcher, and the rehearsal after somebody has looked. -/
def observe (result : Result) (entries : List Entry) (rehearsal : Rehearsal) :
    Observation × Rehearsal :=
  let state := rehearsal.state
  ({ result := result
     queued := state.channel.length
     capacity := state.capacity
     running := rehearsal.attended.isAlive
     unread := state.feed.stream.items.length
     streamCloses := state.feed.stream.closes
     subscriptions := state.subscriptions
     failure := state.failure
     reported := state.reported
     entries := entries }, rehearsal.turn .look)

/-- What can be seen after each action of a script. -/
def perform (rehearsal : Rehearsal) : List Action → List Observation
  | [] => []
  | action :: actions =>
      let (result, next) := rehearsal.act action
      let entries := next.state.journal.drop rehearsal.state.journal.length
      let (observation, looked) := observe result entries next
      observation :: perform looked actions

/-- What can be seen of a watcher when it is opened and after each action of a script. -/
def run (opened : Watch) (openingEntries : List Entry) (held : Bool) (script : List Action) :
    List Observation :=
  let first := settled ⟨opened.setup, .of opened.state, held, none⟩
  let (observation, looked) := observe .nothing (openingEntries ++ first.state.journal) first
  observation :: perform looked script

end Rehearsal

end ContainerWatch.Watcher
