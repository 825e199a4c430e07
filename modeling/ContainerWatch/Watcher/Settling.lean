import ContainerWatch.Watcher.Step

/-!
# Settling

A listener that takes its turn again and again comes to rest: it has exited, or it waits for the
feed, for room on the channel, or for its subscription while that is held back.  The work that is
left before it rests shrinks with every step, so a listener can be run until it rests.
-/

namespace ContainerWatch.Watcher

open Engine

/-- How much can be read from a stream before a read waits, or ends for good. -/
def readable (stream : Stream) : Nat :=
  if stream.closed && !stream.recorded then
    match stream.afterClose with
    | .finish => 0
    | _ => 1
  else
    stream.items.length

/-- Whether a read of the stream waits. -/
def isPending (stream : Stream) : Bool :=
  match stream.read.1 with
  | .pending => true
  | _ => false

/-- Whether the listener rests.  While subscriptions are held back it rests when it waits for one. -/
def isAtRest (held : Bool) (state : State) : Bool :=
  match state.listener with
  | .exited => true
  | .subscribing => held
  | .reading => isPending state.feed.stream
  | .publishing _ | .putting _ => !state.hasRoom && !state.stopRequested
  | _ => false

/-- The work that is left before the listener rests: what it may still read, and how far it is from
    its next read or from its exit. -/
def work (state : State) : Nat :=
  let unread := 10 * readable state.feed.stream
  match state.listener with
  | .starting => unread + 17
  | .subscribing => unread + 16
  | .subscribed => unread + 15
  | .armed => unread + 14
  | .received _ => unread + 19
  | .accepted _ => unread + 18
  | .putting _ => unread + if state.stopRequested then 17 else 15
  | .publishing _ => unread + 16
  | .reading => unread + 13
  | .broken _ => 14
  | .closing _ => 8
  | .marking _ => 7
  | .closingStream _ => 6
  | .finishing _ => 5
  | .recording .. => 4
  | .reporting _ => 3
  | .leaving => 2
  | .exited => 0

/-- A read takes something off the stream, or it ends, or it waits. -/
theorem readable_read (stream : Stream) :
    match stream.read.1 with
    | .payload _ | .failure _ => readable stream.read.2 + 1 = readable stream
    | .finish => True
    | .pending => isPending stream = true := by
  obtain ⟨items, afterClose, closed, closes, closeFault, recorded⟩ := stream
  cases closed <;> cases recorded <;> cases items <;> cases afterClose <;>
    simp [Stream.read, Stream.readItem, Stream.readClosed, readable, isPending] <;>
    split <;> simp_all [Stream.reading]

/-- Reading the feed shrinks the work, unless the read waits. -/
theorem work_readFeed_lt (state : State) (reading : state.listener = .reading)
    (ready : isPending state.feed.stream = false) : work (readFeed state) < work state := by
  have fact := readable_read state.feed.stream
  unfold readFeed Feed.read
  cases taken : state.feed.stream.read with
  | mk item stream =>
      rw [taken] at fact
      cases item with
      | payload value =>
          simp only at fact
          cases decoded : Message.decode value <;>
            simp only [Feed.ofReading, Feed.decode, decoded, State.listenerAt, work, reading] <;>
            omega
      | failure fault =>
          simp only at fact
          simp only [Feed.ofReading, State.listenerAt, work, reading]
          omega
      | finish =>
          simp only [Feed.ofReading, State.listenerAt, work, reading]
          omega
      | pending => simp_all

/-- A step shrinks the work that is left, unless the listener rests. -/
theorem work_listen_lt (setup : Setup) (held : Bool) (state : State)
    (busy : isAtRest held state = false) : work (listen setup state) < work state := by
  unfold listen
  cases phase : state.listener with
  | reading =>
      simp only
      exact work_readFeed_lt state phase (by simpa [isAtRest, phase] using busy)
  | exited => simp [isAtRest, phase] at busy
  | subscribing =>
      cases setup.subscription <;> simp [State.listenerAt, work, phase]
  | accepted message =>
      simp only [interpret]
      cases (Sighting.noticeOfMessage setup.filter message).outcome with
      | error fault => simp [State.listenerAt, State.write, work, phase]
      | ok notice =>
          cases notice <;> simp [State.listenerAt, State.write, State.note, work, phase]
  | publishing notice =>
      cases stopping : state.stopRequested <;> simp_all [State.listenerAt, work, isAtRest]
  | putting notice =>
      cases room : state.hasRoom <;> cases stopping : state.stopRequested <;>
        simp_all [State.listenerAt, State.put, work, isAtRest]
  | closing ending =>
      cases state.feed.closed <;> simp [State.listenerAt, work, phase]
  | closingStream ending =>
      simp only [closeAtEnd]
      cases state.closeStream.1 <;> simp [State.listenerAt, work, phase]
  | finishing ending =>
      cases ending <;> cases stopping : state.stopRequested <;>
        simp [finish, stopping, State.listenerAt, State.note, State.write, work, phase]
  | reporting failure =>
      cases callback : setup.callback <;>
        simp [reportFailure, callback, State.listenerAt, State.write, work, phase]
  | armed | received message =>
      cases state.stopRequested <;> simp [State.listenerAt, work, phase]
  | _ => simp_all [recordFailure, State.markClosed, State.listenerAt, State.note, State.write, work]

/-- The state once the listener rests. -/
def settle (setup : Setup) (held : Bool) (state : State) : State :=
  if isAtRest held state = false then settle setup held (listen setup state) else state
termination_by work state
decreasing_by exact work_listen_lt setup held state ‹_›

/-- A listener that has settled rests. -/
theorem isAtRest_settle (setup : Setup) (held : Bool) (state : State) :
    isAtRest held (settle setup held state) = true := by
  fun_induction settle setup held state with
  | case1 state busy ih => exact ih
  | case2 state rest => simpa using rest

end ContainerWatch.Watcher
