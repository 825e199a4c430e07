import ContainerWatch.Engine.Client

/-!
# Visits

The use of a connected client call by call: the containers are listed, a feed is subscribed to, read
message by message and closed, and the client is closed.  A reading of the feed that came to its end
brings nothing more, but a new one goes on where the old one stopped.
-/

namespace ContainerWatch.Engine

open Journal

/-- A call to the client, which behaves in its own way at each call. -/
inductive Call where
  | list (client : Client)
  | subscribe (client : Client)
  /-- Begin a new reading of the feed. -/
  | restart
  | next
  | closeFeed
  | close (client : Client)

/-- What a call answers. -/
inductive Answer where
  | nothing
  | containers (containers : List Container)
  | message (message : Message)
  | finished

/-- The use of a client so far. -/
structure Visit where
  /-- The feed that was subscribed to last. -/
  feed : Option Feed
  /-- Whether the reading of the feed has not come to its end. -/
  reading : Bool
  /-- Whether the feed is that of the last call to subscribe, which may have failed. -/
  current : Bool
  clientCloses : Nat

namespace Visit

/-- The use of a client of which nothing was asked. -/
def start : Visit := ⟨none, false, false, 0⟩

/-- How often the stream of the last subscription was closed. -/
def streamCloses (visit : Visit) : Nat :=
  match visit.feed with
  | some feed => if visit.current then feed.stream.closes else 0
  | none => 0

/-- The visit once a feed is subscribed to. -/
def subscribed (visit : Visit) (client : Client) : Visit :=
  let feed := Feed.ofStream { client.stream with recorded := true }
  { visit with feed := some feed, reading := true, current := true }

/-- The end of a reading as an answer. -/
def endingAnswer : Ending → Report Answer
  | .finished => pure .finished
  | .failed fault => .fail fault

/-- Read the next message of a feed. -/
def readNext (visit : Visit) (feed : Feed) : Report Answer × Visit :=
  let (step, later) := feed.read
  let going := { visit with feed := some later }
  let ended := { going with reading := false }
  match step with
  | .message message => (pure (.message message), going)
  | .broken fault => (endingAnswer (Feed.endingOf later.closed fault), ended)
  | .finished | .pending => (pure .finished, ended)

/-- The answer to a call, and the visit thereafter. -/
def call (visit : Visit) : Call → Report Answer × Visit
  | .list client => (Report.ofOutcome (client.list.map .containers), visit)
  | .subscribe client =>
      match client.subscribe with
      | .error fault => (.fail fault, { visit with current := false })
      | .ok () => (pure .nothing, visit.subscribed client)
  | .restart => (pure .nothing, { visit with reading := visit.feed.isSome })
  | .next =>
      match visit.reading, visit.feed with
      | true, some feed => readNext visit feed
      | _, _ => (pure .finished, visit)
  | .closeFeed =>
      match visit.feed with
      | none => (pure .nothing, visit)
      | some feed =>
          let (report, closed) := feed.close
          (do let _ ← report; return .nothing, { visit with feed := some closed })
  | .close client =>
      (do let _ ← client.close; return .nothing,
        { visit with clientCloses := visit.clientCloses + 1 })

end Visit

end ContainerWatch.Engine
