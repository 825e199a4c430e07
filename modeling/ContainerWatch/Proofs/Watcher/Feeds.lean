import ContainerWatch.Proofs.Watcher.Closing

/-!
# What a move does to the feed

The listener reads the feed, the engine adds to it, and the listener and the stop calls close it.
Everybody else leaves it as it was.  How the closing of its stream ends is settled from the start.
-/

namespace ContainerWatch.Watcher

open Engine

variable {setup : Setup} {state next : State} {move : Move} {moves : List Move}

/-- The feed after a move. -/
def feedBy (state : State) : Move → Feed
  | .listen => feedAfter state
  | .deliver item => { state.feed with stream := state.feed.stream.deliver item }
  | .stop call =>
      match state.stops[call]? with
      | some phase => feedAfterStop state phase
      | none => state.feed
  | _ => state.feed

/-- The listener, the engine and the stop calls change the feed, and nobody else does. -/
theorem feed_of_step? (stepped : step? setup state move = some next) :
    next.feed = feedBy state move := by
  cases move with
  | listen =>
      cases stepped
      exact listen_feed setup state
  | deliver item =>
      cases stepped
      rfl
  | stop call =>
      obtain ⟨phase, found, rfl⟩ := Option.map_eq_some_iff.mp stepped
      obtain ⟨journal, eq⟩ := stopStep_eq found
      rw [eq]
      simp only [feedBy, found]
  | take =>
      simp only [step?, State.take?] at stepped
      cases waiting : state.channel <;> simp only [waiting] at stepped <;> cases stepped
      rfl
  | read =>
      obtain ⟨phase, found, rfl⟩ := Option.map_eq_some_iff.mp stepped
      cases phase with
      | polling =>
          simp only [readStep, poll, State.take?]
          cases state.channel <;> rfl
      | _ => rfl
  | openReader | closeReader =>
      simp only [step?] at stepped
      split at stepped <;> cases stepped
      rfl
  | callStop =>
      cases stepped
      rfl

/-! ## What stays -/

theorem read_settled (stream : Stream) :
    stream.read.2.closeFault = stream.closeFault ∧ stream.read.2.recorded = stream.recorded := by
  unfold Stream.read Stream.readClosed Stream.readItem
  split
  · split <;> exact ⟨rfl, rfl⟩
  · split <;> exact ⟨rfl, rfl⟩

/-- No move changes how the closing of the stream ends or whether the stream is recorded. -/
theorem feedBy_settled (state : State) (move : Move) :
    (feedBy state move).stream.closeFault = state.feed.stream.closeFault ∧
      (feedBy state move).stream.recorded = state.feed.stream.recorded := by
  cases move with
  | listen =>
      simp only [feedBy, feedAfter]
      split
      · exact read_settled state.feed.stream
      · exact ⟨rfl, rfl⟩
      · exact ⟨rfl, rfl⟩
      · exact ⟨rfl, rfl⟩
  | stop call =>
      simp only [feedBy]
      split
      · unfold feedAfterStop
        split <;> exact ⟨rfl, rfl⟩
      · exact ⟨rfl, rfl⟩
  | _ => exact ⟨rfl, rfl⟩

theorem feedBy_stays_closed (state : State) (move : Move) :
    (state.feed.closed = true → (feedBy state move).closed = true) ∧
      (state.feed.stream.closed = true → (feedBy state move).stream.closed = true) := by
  cases move with
  | listen => exact ⟨feedAfter_closed, feedAfter_stream_closed⟩
  | stop call =>
      simp only [feedBy]
      split
      · refine ⟨feedAfterStop_closed, fun closed => ?_⟩
        unfold feedAfterStop
        split <;> first | rfl | exact closed
      · exact ⟨id, id⟩
  | _ => exact ⟨id, id⟩

/-- The stream of an opened watcher is a live one, and its closing ends as the client has it, wherever
    a run has come to. -/
theorem settled_of_run {options : Options} {client : Client} {watch : Watch}
    (opened : (openWith options client).report.outcome = .ok watch)
    (ran : run? watch.setup watch.state moves = some state) :
    state.feed.stream.closeFault = client.streamCloseFault ∧
      state.feed.stream.recorded = false := by
  refine invariant_of_opened (motive := fun s =>
    s.feed.stream.closeFault = client.streamCloseFault ∧ s.feed.stream.recorded = false)
    opened (fun _ _ => ⟨rfl, rfl⟩) ?_ ran
  rintro state move next ⟨closeFault, live⟩ stepped
  obtain ⟨sameFault, sameKind⟩ := feedBy_settled state move
  rw [feed_of_step? stepped]
  exact ⟨sameFault.trans closeFault, sameKind.trans live⟩

/-- Closing the stream ends in a fault only if that is the stream's own and neither one of the engine
    nor one of the operating system. -/
theorem closeFault_of_afterClosing {closeFault : Option Fault} {fault : Fault}
    (fails : (Feed.afterClosing closeFault).outcome = .error fault) :
    closeFault = some fault ∧ fault.kind.isTransport = false := by
  unfold Feed.afterClosing at fails
  cases closeFault with
  | none => cases fails
  | some own =>
      cases transport : own.kind.isTransport with
      | true =>
          simp only [transport] at fails
          cases fails
      | false =>
          simp only [transport] at fails
          cases fails
          exact ⟨rfl, transport⟩

/-- A connection that the other side has reset. -/
def resetFault : Fault := .ofMessage (.system .connectionReset) "reset"

/-- A fault that is neither one of the engine nor one of the operating system. -/
def strayFault : Fault := .ofMessage .runtime "boom"

/-! ## Reading a live stream that is open -/

theorem read_of_empty {stream : Stream} (opened : stream.closed = false)
    (live : stream.recorded = false) (empty : stream.items = []) :
    stream.read = (.pending, stream) := by
  simp [Stream.read, Stream.readItem, opened, live, empty]

theorem read_of_item {stream : Stream} {item : StreamItem} {items : List StreamItem}
    (opened : stream.closed = false) (holds : stream.items = item :: items) :
    stream.read = (Stream.reading item, { stream with items := items }) := by
  simp [Stream.read, Stream.readItem, opened, holds]

end ContainerWatch.Watcher
