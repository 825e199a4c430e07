import ContainerWatch.Engine.Client
import ContainerWatch.Sighting

/-!
# The state of a watcher

A watcher has a listener, which reads the event feed and puts notices on a channel, and users, who
take notices from the channel and may ask the listener to stop.  They take turns in any order, so
each of them is at some phase of what it does, and a phase ends at every point where another's turn
could make a difference.
-/

namespace ContainerWatch.Watcher

open Engine Journal

/-- What the owner of a watcher does when it is told that the listener failed. -/
inductive Callback where
  | absent
  | accepts
  | raises (fault : Fault)

/-- What stays the same as long as a watcher lives. -/
structure Setup where
  filter : NameFilter
  /-- What a subscription to the event feed comes to. -/
  subscription : Except Fault Unit
  callback : Callback

/-- The phases of the listener. -/
inductive Listener where
  /-- It has not called for a subscription yet. -/
  | starting
  /-- It has called for a subscription and waits for it. -/
  | subscribing
  /-- It has a feed of which those who ask it to stop do not know. -/
  | subscribed
  /-- Its feed is known; it has not looked whether it should stop. -/
  | armed
  /-- It reads the feed, or waits for it. -/
  | reading
  /-- It has read a message and not looked whether it should stop. -/
  | received (message : Message)
  /-- It goes to tell what a message says. -/
  | accepted (message : Message)
  /-- Reading broke, and it has not looked whether the feed is closed. -/
  | broken (fault : Fault)
  /-- It has a notice and not looked whether it should stop. -/
  | publishing (notice : Notice)
  /-- It puts a notice on the channel, or waits until there is room. -/
  | putting (notice : Notice)
  /-- It goes to close the feed and has not looked whether the feed is closed. -/
  | closing (ending : Ending)
  /-- It found the feed open and goes to mark it as closed. -/
  | marking (ending : Ending)
  /-- It has marked the feed as closed and goes to close the stream. -/
  | closingStream (ending : Ending)
  /-- It is done with the feed and looks a last time whether it should stop. -/
  | finishing (ending : Ending)
  /-- It goes to record that it failed. -/
  | recording (reason : String) (cause : Option Fault)
  /-- It has recorded its failure and goes to tell the owner. -/
  | reporting (failure : Fault)
  /-- It has nothing left to do. -/
  | leaving
  /-- It has exited. -/
  | exited

/-- The phases of a call that asks the listener to stop. -/
inductive StopCall where
  /-- It goes to request the stop. -/
  | called
  /-- It has requested the stop and goes to look for the feed. -/
  | requested
  /-- It goes to close the feed and has not looked whether the feed is closed. -/
  | closing
  /-- It found the feed open and goes to mark it as closed. -/
  | marking
  /-- It has marked the feed as closed and goes to close the stream. -/
  | closingStream
  /-- It waits for the listener to exit. -/
  | waiting
  /-- It has returned, and told whether the listener has exited. -/
  | returned (exited : Bool)
  /-- It ended in a fault. -/
  | raised (fault : Fault)

/-- The phases of a reader that goes through all notices. -/
inductive Reader where
  /-- It waits for a notice. -/
  | polling
  /-- It has handed out a notice and is asked for the next one in due course. -/
  | yielded (notice : Notice)
  /-- It waited in vain. -/
  | timedOut
  /-- Thereafter it has looked for a failure of the listener. -/
  | sawFailure (failure : Option Fault)
  /-- It has found out whether the listener is finished, and not looked at the channel. -/
  | judged (failure : Option Fault) (finished : Bool)
  /-- There are no more notices. -/
  | ended
  /-- It ended in the failure of the listener. -/
  | raised (failure : Fault)

/-- The state of a watcher and of its users. -/
structure State where
  /-- The notices that wait for a reader. -/
  channel : List Notice
  /-- How many notices the channel has room for. -/
  capacity : Nat
  /-- The notices that readers have taken. -/
  taken : List Notice
  stopRequested : Bool
  /-- The failure that the listener has recorded. -/
  failure : Option Fault
  listener : Listener
  feed : Feed
  /-- Whether those who ask the listener to stop know of its feed. -/
  feedKnown : Bool
  /-- How often a subscription was called for. -/
  subscriptions : Nat
  /-- The failures that the owner was told of. -/
  reported : List Fault
  stops : List StopCall
  reader : Option Reader
  journal : List Entry

namespace Listener

/-- Whether the listener has not exited. -/
def isRunning : Listener → Bool
  | exited => false
  | _ => true

end Listener

namespace StopCall

/-- Whether a stop call has returned or ended in a fault. -/
def isOver : StopCall → Bool
  | returned _ | raised _ => true
  | _ => false

end StopCall

namespace Reader

/-- Whether a reader is through. -/
def isDone : Reader → Bool
  | ended | raised _ => true
  | _ => false

end Reader

namespace State

/-- The state of a watcher whose listener has not taken a step. -/
def initial (stream : Stream) (snapshot : List Notice) (capacity : Nat) : State where
  channel := snapshot
  capacity := capacity
  taken := []
  stopRequested := false
  failure := none
  listener := .starting
  feed := .ofStream stream
  feedKnown := false
  subscriptions := 0
  reported := []
  stops := []
  reader := none
  journal := []

def isRunning (state : State) : Bool := state.listener.isRunning

def hasRoom (state : State) : Bool := state.channel.length < state.capacity

/-- The state with entries added to the journal. -/
def write (state : State) (entries : List Entry) : State :=
  { state with journal := state.journal ++ entries }

/-- The state with an entry of the watcher added to the journal. -/
def note (state : State) (level : Level) (message : String) : State :=
  state.write [.plain level .watcher message]

def listenerAt (state : State) (phase : Listener) : State := { state with listener := phase }

/-- The state with a stop call at a phase. -/
def stopAt (state : State) (call : Nat) (phase : StopCall) : State :=
  { state with stops := state.stops.set call phase }

def readerAt (state : State) (phase : Reader) : State := { state with reader := some phase }

/-- The state with one more notice on the channel. -/
def put (state : State) (notice : Notice) : State :=
  { state with channel := state.channel ++ [notice] }

/-- The first notice on the channel, and the state once it is taken. -/
def take? (state : State) : Option (Notice × State) :=
  match state.channel with
  | [] => none
  | notice :: rest =>
      some (notice, { state with channel := rest, taken := state.taken ++ [notice] })

def markClosed (state : State) : State := { state with feed := { state.feed with closed := true } }

/-- Close the stream: how that ends, and the state thereafter. -/
def closeStream (state : State) : Except Fault Unit × State :=
  let report := Feed.afterClosing state.feed.stream.closeFault
  let feed := { state.feed with stream := state.feed.stream.close }
  (report.outcome, { state with feed := feed }.write report.entries)

end State

end ContainerWatch.Watcher
