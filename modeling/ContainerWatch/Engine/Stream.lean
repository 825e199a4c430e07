import ContainerWatch.Engine.Message
import ContainerWatch.Journal.Report

/-!
# The event stream

The engine's stream of events, as its client sees it.  Reading takes the next item, or waits for one.
Once the stream is closed a read no longer takes an item: it ends, or it breaks, or it still delivers
one payload.  A recorded stream holds all its items from the start; it ends where another one would
wait, and closing it changes nothing for its reader.
-/

namespace ContainerWatch.Engine

/-- What the engine puts on the stream. -/
inductive StreamItem where
  | payload (value : Value)
  | failure (fault : Fault)
  | finish

/-- What a read of a closed stream meets. -/
inductive AfterClose where
  | finish
  | failure (fault : Fault)
  | payload (value : Value)

/-- A stream of events. -/
structure Stream where
  /-- What the engine has put on the stream and nobody has read. -/
  items : List StreamItem
  afterClose : AfterClose
  closed : Bool
  /-- How often the stream was closed. -/
  closes : Nat
  /-- The fault in which closing ends, after the stream is closed. -/
  closeFault : Option Fault
  recorded : Bool

/-- What a read meets. -/
inductive Reading where
  | payload (value : Value)
  | failure (fault : Fault)
  | finish
  /-- There is nothing to read yet. -/
  | pending

namespace Stream

/-- A stream that nobody has read or closed. -/
def fresh (items : List StreamItem) (afterClose : AfterClose) (closeFault : Option Fault) : Stream where
  items := items
  afterClose := afterClose
  closed := false
  closes := 0
  closeFault := closeFault
  recorded := false

/-- The reading of an item. -/
def reading : StreamItem → Reading
  | .payload value => .payload value
  | .failure fault => .failure fault
  | .finish => .finish

/-- Read a stream that is open, or recorded. -/
def readItem (stream : Stream) : Reading × Stream :=
  match stream.items with
  | [] => (if stream.recorded then .finish else .pending, stream)
  | item :: items => (reading item, { stream with items := items })

/-- Read a stream that is closed. -/
def readClosed (stream : Stream) : Reading × Stream :=
  let later := { stream with afterClose := .finish }
  match stream.afterClose with
  | .finish => (.finish, later)
  | .failure fault => (.failure fault, later)
  | .payload value => (.payload value, later)

/-- Read the next item. -/
def read (stream : Stream) : Reading × Stream :=
  if stream.closed && !stream.recorded then stream.readClosed else stream.readItem

/-- The stream with one more item at its end. -/
def deliver (stream : Stream) (item : StreamItem) : Stream :=
  { stream with items := stream.items ++ [item] }

def close (stream : Stream) : Stream := { stream with closed := true, closes := stream.closes + 1 }

end Stream

/-- A subscription to the event stream: the stream, and whether the subscription has been closed. -/
structure Feed where
  stream : Stream
  closed : Bool

/-- How the reading of a feed comes to its end. -/
inductive Ending where
  | finished
  | failed (fault : Fault)

/-- What the next step of reading a feed brings. -/
inductive FeedStep where
  | message (message : Message)
  /-- The stream broke, or its payload is no message. -/
  | broken (fault : Fault)
  | finished
  | pending

namespace Feed

def ofStream (stream : Stream) : Feed := ⟨stream, false⟩

/-- The message of a payload. -/
def decode (payload : Value) : FeedStep :=
  match Message.decode payload with
  | .ok message => .message message
  | .error error => .broken error.fault

/-- What a reading of the stream brings. -/
def ofReading : Reading → FeedStep
  | .payload value => decode value
  | .failure fault => .broken fault
  | .finish => .finished
  | .pending => .pending

/-- Read the next message. -/
def read (feed : Feed) : FeedStep × Feed :=
  let (reading, stream) := feed.stream.read
  (ofReading reading, { feed with stream := stream })

/-- How reading ends when the stream broke.  A break of the kind that closing causes is the end of a
    feed that has been closed, and otherwise the failure of the stream; any other fault stays what it
    is. -/
def endingOf (closed : Bool) (fault : Fault) : Ending :=
  if fault.kind.endsReading then
    if closed then .finished else .failed (.collecting "docker event stream failed" fault)
  else
    .failed fault

/-- What is noted and what goes on when the closing of the stream ended in a fault: a fault of the
    engine or of the operating system is noted only. -/
def afterClosing (fault : Option Fault) : Journal.Report Unit :=
  match fault with
  | none => pure ()
  | some fault =>
      if fault.kind.isTransport then
        .note .debug .engine ("Error closing docker event stream: " ++ fault.text)
      else
        .fail fault

/-- Close the feed, unless it has been closed. -/
def close (feed : Feed) : Journal.Report Unit × Feed :=
  if feed.closed then
    (pure (), feed)
  else
    (afterClosing feed.stream.closeFault, ⟨feed.stream.close, true⟩)

end Feed

end ContainerWatch.Engine
