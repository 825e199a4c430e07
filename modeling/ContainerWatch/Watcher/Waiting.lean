import ContainerWatch.Binary64.Basic
import ContainerWatch.Watcher.Step

/-!
# Waiting for the listener

Who asks the listener to stop waits for its exit, for some time or for as long as it takes.  Two things
can be wrong with that.  The listener cannot wait for its own exit, which it would do if its owner asked
it to stop on being told that it failed.  And no wait can be longer than a clock can tell.  One that
should be ends in a fault, and then the listener is written off: it counts as exited from there on,
although it may go on as before.

The moves of a watcher are made by callers with whose waits nothing is wrong.  Here they are taken up
as turns, beside those of callers who wait for any time and on any thread.
-/

namespace ContainerWatch.Watcher

open Journal

/-- How long a wait may last. -/
inductive Timeout where
  | forever
  | whole (seconds : Int)
  | fraction (seconds : Binary64)
  deriving DecidableEq, Repr

namespace Timeout

/-- The timeout of a stop for which none is given. -/
def usual : Timeout := .fraction (.ofInt 2)

/-- The greatest whole number of seconds that a clock can tell. -/
def longest : Int := 9223372036

/-- Whether a number of seconds makes more nanoseconds than a clock can tell. -/
def exceedsClock (seconds : Binary64) : Bool :=
  match seconds.mulNat 1000000000 with
  | .infinite negative => !negative
  | .finite negative mantissa exponent =>
      let (num, den) := Binary64.magnitude mantissa exponent
      !negative && den * Nat.pow 2 63 ≤ num
  | .nan => false

/-- The fault of a timeout that cannot be waited for.  One that is negative is none at all. -/
def fault? : Timeout → Option Fault
  | forever => none
  | whole seconds =>
      if longest < seconds then
        some (.ofMessage .overflow "timestamp too large to convert to C _PyTime_t")
      else none
  | fraction .nan => some (.ofMessage .value "Invalid value NaN (not a number)")
  | fraction seconds =>
      if exceedsClock seconds then
        some (.ofMessage .overflow "timestamp out of range for platform time_t")
      else none

end Timeout

/-- Who waits for the listener: for how long, and whether it is the listener itself, while its owner is
    told that it failed. -/
structure Caller where
  timeout : Timeout
  isListener : Bool := false
  deriving DecidableEq, Repr

def Caller.usual : Caller := { timeout := .usual }

def Caller.selfFault : Fault := .ofMessage .runtime "cannot join current thread"

/-- What is wrong with the wait of a caller, if anything. -/
def Caller.fault? (caller : Caller) : Option Fault :=
  if caller.isListener then some selfFault else caller.timeout.fault?

/-- The state of a watcher, and what concerns those who wait for its listener. -/
structure Attended where
  state : State
  /-- Who makes the stop calls, in their order. -/
  callers : List Caller
  /-- Whether the listener counts as exited, so that nobody looks after it again. -/
  writtenOff : Bool

/-- What happens next to a watcher and those who wait for its listener. -/
inductive Turn where
  | move (move : Move)
  /-- Somebody asks the listener to stop, and will wait for it. -/
  | callStop (caller : Caller)
  /-- Somebody has waited for the listener to exit. -/
  | wait (caller : Caller)
  /-- Somebody looks whether the listener is running. -/
  | look

namespace Attended

/-- A watcher for whose listener nobody has waited. -/
def of (state : State) : Attended := ⟨state, [], false⟩

def withState (attended : Attended) (state : State) : Attended := { attended with state := state }

def isAlive (attended : Attended) : Bool := !attended.writtenOff && attended.state.isRunning

/-- After a look at the listener.  One that is found to have exited is not looked after again. -/
def look (attended : Attended) : Attended := { attended with writtenOff := !attended.isAlive }

/-- Wait until the listener has exited or the time is over, if that comes to an end: in which fault, if
    in any, and what is so thereafter.  A wait that is too long is not noticed once the listener counts
    as exited. -/
def join? (caller : Caller) (attended : Attended) : Option (Except Fault Unit × Attended) :=
  if caller.isListener then
    some (.error Caller.selfFault, attended)
  else if attended.writtenOff then
    some (.ok (), attended)
  else
    match caller.timeout.fault? with
    | some fault =>
        some (.error fault, { attended with writtenOff := attended.state.isRunning })
    | none =>
        if attended.isAlive && caller.timeout = .forever then none
        else some (.ok (), attended.look)

/-- Wait for the listener and tell whether it has exited, if that comes to an end. -/
def wait? (caller : Caller) (attended : Attended) : Option (Except Fault Bool × Attended) :=
  match attended.join? caller with
  | some (.ok (), next) => some (.ok !next.isAlive, next.look)
  | some (.error fault, next) => some (.error fault, next)
  | none => none

/-- Whether the listener is about to tell its owner that it failed. -/
def isTelling (setup : Setup) (attended : Attended) : Bool :=
  match setup.callback, attended.state.listener with
  | .absent, _ => false
  | _, .reporting _ => true
  | _, _ => false

/-- Whether the listener is kept by a stop call of its own. -/
def isKept (attended : Attended) : Bool :=
  (attended.callers.zip attended.state.stops).any fun (caller, phase) =>
    caller.isListener && !phase.isOver

/-- Whether a caller is in a position to call.  The listener is so while it tells its owner of its
    failure, unless a call keeps it. -/
def admits (setup : Setup) (attended : Attended) (caller : Caller) : Bool :=
  !caller.isListener || (attended.isTelling setup && !attended.isKept)

/-- Somebody asks the listener to stop. -/
def call (caller : Caller) (attended : Attended) : Attended :=
  { attended with
    state := callStop attended.state
    callers := attended.callers ++ [caller] }

/-- Where a stop call ends that has waited. -/
def afterWait : Except Fault Bool → StopCall
  | .ok exited => .returned exited
  | .error fault => .raised fault

def callerOf (attended : Attended) (call : Nat) : Caller := attended.callers.getD call .usual

/-- A step of a stop call, if there is such a call and it does not have to wait on. -/
def stop? (call : Nat) (attended : Attended) : Option Attended :=
  match attended.state.stops[call]? with
  | none => none
  | some .waiting =>
      (attended.wait? (attended.callerOf call)).map fun (answer, next) =>
        next.withState (next.state.stopAt call (afterWait answer))
  | some phase => some (attended.withState (stopStep call phase attended.state))

/-- A step of the reader, if there is one.  It looks whether the listener is running where it has seen
    no failure. -/
def read? (attended : Attended) : Option Attended :=
  match attended.state.reader with
  | some (.sawFailure none) =>
      some (attended.look.withState
        (attended.state.readerAt (.judged none !attended.isAlive)))
  | some phase => some (attended.withState (readStep phase attended.state))
  | none => none

/-- A turn, if it is possible. -/
def step? (setup : Setup) (attended : Attended) : Turn → Option Attended
  | .callStop caller =>
      if attended.admits setup caller then some (attended.call caller) else none
  | .wait caller =>
      if attended.admits setup caller then (attended.wait? caller).map (·.2) else none
  | .look => some attended.look
  | .move .callStop => some (attended.call .usual)
  | .move .listen =>
      if attended.isKept then none else some (attended.withState (listen setup attended.state))
  | .move (.stop call) => attended.stop? call
  | .move .read => attended.read?
  | .move move => (Watcher.step? setup attended.state move).map attended.withState

/-- A turn that is left out if it is not possible. -/
def step (setup : Setup) (turn : Turn) (attended : Attended) : Attended :=
  (attended.step? setup turn).getD attended

/-- A sequence of turns, if each of them is possible in its place. -/
def run? (setup : Setup) (attended : Attended) : List Turn → Option Attended
  | [] => some attended
  | turn :: turns =>
      match attended.step? setup turn with
      | some next => run? setup next turns
      | none => none

end Attended

end ContainerWatch.Watcher
