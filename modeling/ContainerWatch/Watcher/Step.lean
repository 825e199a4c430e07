import ContainerWatch.Watcher.State

/-!
# The steps of a watcher

What the listener, a stop call and a reader do in their turn, and what the engine and the users may
do at any time.  A run is a sequence of such moves; whoever waits takes steps that change nothing.
-/

namespace ContainerWatch.Watcher

open Engine Journal

/-- What happens next. -/
inductive Move where
  /-- The listener takes a step. -/
  | listen
  /-- The engine puts an item on the stream. -/
  | deliver (item : StreamItem)
  /-- Somebody takes a notice without waiting. -/
  | take
  /-- Somebody asks the listener to stop. -/
  | callStop
  /-- A stop call takes a step. -/
  | stop (call : Nat)
  /-- Somebody begins to read all notices. -/
  | openReader
  /-- The reader takes a step. -/
  | read
  /-- The reader is abandoned while a notice is handed out. -/
  | closeReader

/-- The reason of a failure that has no cause: the feed came to its end. -/
def terminatedReason : String := "event feed terminated"

/-- The listener reads the feed. -/
def readFeed (state : State) : State :=
  let (step, feed) := state.feed.read
  let next := { state with feed := feed }
  match step with
  | .message message => next.listenerAt (.received message)
  | .broken fault => next.listenerAt (.broken fault)
  | .finished => next.listenerAt (.closing .finished)
  | .pending => next

/-- The listener tells what a message says. -/
def interpret (setup : Setup) (message : Message) (state : State) : State :=
  let report := Sighting.noticeOfMessage setup.filter message
  let next := state.write report.entries
  match report.outcome with
  | .error fault => next.listenerAt (.closing (.failed fault))
  | .ok none => next.listenerAt .reading
  | .ok (some notice) =>
      (next.note .info ("new event " ++ notice.quoted)).listenerAt (.publishing notice)

/-- The listener closes the stream.  A fault of closing takes the place of what was before. -/
def closeAtEnd (ending : Ending) (state : State) : State :=
  let (outcome, next) := state.closeStream
  match outcome with
  | .ok () => next.listenerAt (.finishing ending)
  | .error fault => next.listenerAt (.finishing (.failed fault))

/-- The listener looks a last time whether it should stop.  If so it leaves, and otherwise it has
    failed. -/
def finish (ending : Ending) (state : State) : State :=
  match ending, state.stopRequested with
  | .finished, true => (state.note .info "Event listener stopped").listenerAt .leaving
  | .failed fault, true =>
      (state.note .debug ("Event listener stopped while reading: " ++ fault.text)).listenerAt
        .leaving
  | .finished, false => state.listenerAt (.recording terminatedReason none)
  | .failed fault, false => state.listenerAt (.recording fault.text (some fault))

/-- The listener records that it failed. -/
def recordFailure (reason : String) (cause : Option Fault) (state : State) : State :=
  let failure := Fault.listening (.text reason) cause
  let next := { state with failure := some failure }
  (next.note .error ("Event listener failed: " ++ reason)).listenerAt (.reporting failure)

/-- The listener tells the owner that it failed. -/
def reportFailure (setup : Setup) (failure : Fault) (state : State) : State :=
  let told := { state with reported := state.reported ++ [failure] }
  match setup.callback with
  | .absent => state.listenerAt .leaving
  | .accepts => told.listenerAt .leaving
  | .raises fault =>
      let message := "Error in failure callback: " ++ fault.text
      (told.write [⟨.error, .watcher, message, [], some fault⟩]).listenerAt .leaving

/-- A step of the listener. -/
def listen (setup : Setup) (state : State) : State :=
  match state.listener with
  | .starting =>
      { state with subscriptions := state.subscriptions + 1 }.listenerAt .subscribing
  | .subscribing =>
      match setup.subscription with
      | .ok () => state.listenerAt .subscribed
      | .error fault => state.listenerAt (.finishing (.failed fault))
  | .subscribed => { state with feedKnown := true }.listenerAt .armed
  | .armed => state.listenerAt (if state.stopRequested then .closing .finished else .reading)
  | .reading => readFeed state
  | .received message =>
      state.listenerAt (if state.stopRequested then .closing .finished else .accepted message)
  | .accepted message => interpret setup message state
  | .broken fault => state.listenerAt (.closing (Feed.endingOf state.feed.closed fault))
  | .publishing notice =>
      state.listenerAt (if state.stopRequested then .closing .finished else .putting notice)
  | .putting notice =>
      if state.hasRoom then (state.put notice).listenerAt .reading
      else state.listenerAt (.publishing notice)
  | .closing ending =>
      state.listenerAt (if state.feed.closed then .finishing ending else .marking ending)
  | .marking ending => state.markClosed.listenerAt (.closingStream ending)
  | .closingStream ending => closeAtEnd ending state
  | .finishing ending => finish ending state
  | .recording reason cause => recordFailure reason cause state
  | .reporting failure => reportFailure setup failure state
  | .leaving => state.listenerAt .exited
  | .exited => state

/-- A stop call closes the stream. -/
def closeForStop (call : Nat) (state : State) : State :=
  let (outcome, next) := state.closeStream
  match outcome with
  | .ok () => next.stopAt call .waiting
  | .error fault => next.stopAt call (.raised fault)

/-- A step of a stop call.  A call that waits may give up at any time. -/
def stopStep (call : Nat) (phase : StopCall) (state : State) : State :=
  match phase with
  | .called => { state with stopRequested := true }.stopAt call .requested
  | .requested => state.stopAt call (if state.feedKnown then .closing else .waiting)
  | .closing => state.stopAt call (if state.feed.closed then .waiting else .marking)
  | .marking => state.markClosed.stopAt call .closingStream
  | .closingStream => closeForStop call state
  | .waiting => state.stopAt call (.returned !state.isRunning)
  | .returned _ | .raised _ => state

/-- A reader waits for a notice. -/
def poll (state : State) : State :=
  match state.take? with
  | some (notice, next) => next.readerAt (.yielded notice)
  | none => state.readerAt .timedOut

/-- Where a reader goes on that found the channel empty. -/
def afterEmpty (failure : Option Fault) (finished : Bool) : Reader :=
  match failure, finished with
  | some fault, _ => .raised fault
  | none, true => .ended
  | none, false => .polling

/-- A step of a reader.  What it knows of the listener is from before its look at the channel. -/
def readStep (phase : Reader) (state : State) : State :=
  match phase with
  | .polling => poll state
  | .yielded _ => state.readerAt .polling
  | .timedOut => state.readerAt (.sawFailure state.failure)
  | .sawFailure failure =>
      state.readerAt (.judged failure (failure.isSome || !state.isRunning))
  | .judged failure finished =>
      state.readerAt (if state.channel.isEmpty then afterEmpty failure finished else .polling)
  | .ended | .raised _ => state

/-- Somebody asks the listener to stop. -/
def callStop (state : State) : State :=
  let next := { state with stops := state.stops ++ [StopCall.called] }
  next.note .info "Stopping event listener..."

/-- A move, if it is possible. -/
def step? (setup : Setup) (state : State) : Move → Option State
  | .listen => some (listen setup state)
  | .deliver item =>
      some { state with feed := { state.feed with stream := state.feed.stream.deliver item } }
  | .take => state.take?.map (·.2)
  | .callStop => some (callStop state)
  | .stop call => state.stops[call]?.map fun phase => stopStep call phase state
  | .openReader =>
      if state.reader.all (·.isDone) then some (state.readerAt .polling) else none
  | .read => state.reader.map fun phase => readStep phase state
  | .closeReader =>
      match state.reader with
      | some (.yielded _) => some { state with reader := none }
      | _ => none

/-- A move that is left out if it is not possible. -/
def step (setup : Setup) (move : Move) (state : State) : State := (step? setup state move).getD state

/-- A sequence of moves, if each of them is possible in its turn. -/
def run? (setup : Setup) (state : State) : List Move → Option State
  | [] => some state
  | move :: moves =>
      match step? setup state move with
      | some next => run? setup next moves
      | none => none

theorem run?_append (setup : Setup) (state : State) (first second : List Move) :
    run? setup state (first ++ second)
      = (run? setup state first).bind fun middle => run? setup middle second := by
  induction first generalizing state with
  | nil => rfl
  | cons move moves ih =>
      simp only [List.cons_append, run?]
      cases step? setup state move with
      | none => rfl
      | some next => exact ih next

end ContainerWatch.Watcher
