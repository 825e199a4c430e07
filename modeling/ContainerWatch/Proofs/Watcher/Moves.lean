import ContainerWatch.Watcher.Step

/-!
# What a move does

Every move in one place: where a step of the listener goes on and what it changes, what everybody
else leaves as it was, and what happens to the notices.  What holds of all runs is found from these
facts alone, without a look at the single steps.
-/

namespace ContainerWatch.Watcher

open Engine Journal

/-! ## The listener -/

/-- The phase that the listener goes on to. -/
def nextPhase (setup : Setup) (state : State) : Listener :=
  match state.listener with
  | .starting => .subscribing
  | .subscribing =>
      match setup.subscription with
      | .ok () => .subscribed
      | .error fault => .finishing (.failed fault)
  | .subscribed => .armed
  | .armed => if state.stopRequested then .closing .finished else .reading
  | .reading =>
      match Feed.ofReading state.feed.stream.read.1 with
      | .message message => .received message
      | .broken fault => .broken fault
      | .finished => .closing .finished
      | .pending => .reading
  | .received message => if state.stopRequested then .closing .finished else .accepted message
  | .accepted message =>
      match (Sighting.noticeOfMessage setup.filter message).outcome with
      | .error fault => .closing (.failed fault)
      | .ok none => .reading
      | .ok (some notice) => .publishing notice
  | .broken fault => .closing (Feed.endingOf state.feed.closed fault)
  | .publishing notice => if state.stopRequested then .closing .finished else .putting notice
  | .putting notice => if state.hasRoom then .reading else .publishing notice
  | .closing ending => if state.feed.closed then .finishing ending else .marking ending
  | .marking ending => .closingStream ending
  | .closingStream ending =>
      match (Feed.afterClosing state.feed.stream.closeFault).outcome with
      | .ok () => .finishing ending
      | .error fault => .finishing (.failed fault)
  | .finishing ending =>
      if state.stopRequested then .leaving
      else match ending with
        | .finished => .recording terminatedReason none
        | .failed fault => .recording fault.text (some fault)
  | .recording reason cause => .reporting (.listening (.text reason) cause)
  | .reporting _ => .leaving
  | .leaving => .exited
  | .exited => .exited

/-- The notices that a move puts on the channel. -/
def putBy (state : State) : Move → List Notice
  | .listen =>
      match state.listener with
      | .putting notice => if state.hasRoom then [notice] else []
      | _ => []
  | _ => []

theorem putBy_of_ne {state : State} {move : Move} (other : move ≠ .listen) :
    putBy state move = [] := by
  cases move <;> first | rfl | exact absurd rfl other

/-- The failure on record after a step of the listener. -/
def failureAfter (state : State) : Option Fault :=
  match state.listener with
  | .recording reason cause => some (.listening (.text reason) cause)
  | _ => state.failure

/-- The failures of which a callback is told, one after the other. -/
def Callback.told : Callback → Fault → List Fault
  | absent, _ => []
  | _, failure => [failure]

/-- The failures of which a step of the listener tells the owner. -/
def toldBy (setup : Setup) (state : State) : List Fault :=
  match state.listener with
  | .reporting failure => setup.callback.told failure
  | _ => []

/-- How often a step of the listener calls for a subscription. -/
def callsBy (state : State) : Nat :=
  match state.listener with
  | .starting => 1
  | _ => 0

/-- The feed after a step of the listener. -/
def feedAfter (state : State) : Feed :=
  match state.listener with
  | .reading => { state.feed with stream := state.feed.stream.read.2 }
  | .marking _ => { state.feed with closed := true }
  | .closingStream _ => { state.feed with stream := state.feed.stream.close }
  | _ => state.feed

/-- Whether the feed is known after a step of the listener. -/
def feedKnownAfter (state : State) : Bool :=
  match state.listener with
  | .subscribed => true
  | _ => state.feedKnown

/-- All that a step of the listener does, but for what it writes into the journal. -/
theorem listen_eq (setup : Setup) (state : State) :
    ∃ journal, listen setup state =
      { state with
        listener := nextPhase setup state
        channel := state.channel ++ putBy state .listen
        failure := failureAfter state
        reported := state.reported ++ toldBy setup state
        subscriptions := state.subscriptions + callsBy state
        feed := feedAfter state
        feedKnown := feedKnownAfter state
        journal := journal } := by
  unfold listen nextPhase putBy failureAfter toldBy callsBy feedAfter feedKnownAfter
  cases phase : state.listener with
  | reading =>
      simp only [readFeed, Feed.read]
      cases Feed.ofReading state.feed.stream.read.1 <;> simp [State.listenerAt, phase]
  | subscribing =>
      cases setup.subscription <;> simp [State.listenerAt]
  | accepted message =>
      simp only [interpret]
      cases (Sighting.noticeOfMessage setup.filter message).outcome with
      | error fault => simp [State.listenerAt, State.write, phase]
      | ok told => cases told <;> simp [State.listenerAt, State.note, State.write, phase]
  | putting notice =>
      cases room : state.hasRoom <;> simp [State.listenerAt, State.put, phase]
  | closing ending =>
      cases state.feed.closed <;> simp [State.listenerAt]
  | closingStream ending =>
      simp only [closeAtEnd, State.closeStream]
      cases (Feed.afterClosing state.feed.stream.closeFault).outcome <;>
        simp [State.listenerAt, State.write, phase]
  | finishing ending =>
      cases ending <;> cases stopping : state.stopRequested <;>
        simp [finish, State.listenerAt, State.note, State.write, stopping, phase]
  | reporting failure =>
      simp only [reportFailure]
      cases setup.callback <;> simp [Callback.told, State.listenerAt, State.write, phase]
  | armed | received message | publishing notice =>
      cases stopping : state.stopRequested <;> simp [State.listenerAt, stopping]
  | exited =>
      refine ⟨state.journal, ?_⟩
      simp only [List.append_nil, Nat.add_zero]
      rw [← phase]
  | _ =>
      simp [recordFailure, State.markClosed, State.listenerAt, State.note, State.write, phase]

section Listen

variable (setup : Setup) (state : State)

@[simp] theorem listen_listener : (listen setup state).listener = nextPhase setup state := by
  obtain ⟨journal, eq⟩ := listen_eq setup state
  rw [eq]

@[simp] theorem listen_failure : (listen setup state).failure = failureAfter state := by
  obtain ⟨journal, eq⟩ := listen_eq setup state
  rw [eq]

@[simp] theorem listen_reported :
    (listen setup state).reported = state.reported ++ toldBy setup state := by
  obtain ⟨journal, eq⟩ := listen_eq setup state
  rw [eq]

@[simp] theorem listen_subscriptions :
    (listen setup state).subscriptions = state.subscriptions + callsBy state := by
  obtain ⟨journal, eq⟩ := listen_eq setup state
  rw [eq]

@[simp] theorem listen_stopRequested :
    (listen setup state).stopRequested = state.stopRequested := by
  obtain ⟨journal, eq⟩ := listen_eq setup state
  rw [eq]

@[simp] theorem listen_stops : (listen setup state).stops = state.stops := by
  obtain ⟨journal, eq⟩ := listen_eq setup state
  rw [eq]

@[simp] theorem listen_capacity : (listen setup state).capacity = state.capacity := by
  obtain ⟨journal, eq⟩ := listen_eq setup state
  rw [eq]

@[simp] theorem listen_channel :
    (listen setup state).channel = state.channel ++ putBy state .listen := by
  obtain ⟨journal, eq⟩ := listen_eq setup state
  rw [eq]

@[simp] theorem listen_taken : (listen setup state).taken = state.taken := by
  obtain ⟨journal, eq⟩ := listen_eq setup state
  rw [eq]

@[simp] theorem listen_reader : (listen setup state).reader = state.reader := by
  obtain ⟨journal, eq⟩ := listen_eq setup state
  rw [eq]

@[simp] theorem listen_feed : (listen setup state).feed = feedAfter state := by
  obtain ⟨journal, eq⟩ := listen_eq setup state
  rw [eq]

@[simp] theorem listen_feedKnown : (listen setup state).feedKnown = feedKnownAfter state := by
  obtain ⟨journal, eq⟩ := listen_eq setup state
  rw [eq]

end Listen

/-! ## The others -/

/-- The notices that a move hands to somebody who takes or reads them. -/
def handedBy (state : State) : Move → List Notice
  | .take => state.channel.head?.toList
  | .read =>
      match state.reader with
      | some .polling => state.channel.head?.toList
      | _ => []
  | _ => []

/-- The items that a move delivers. -/
def deliveredBy : Move → List StreamItem
  | .deliver item => [item]
  | _ => []

/-- The items that are delivered in a run, in their order. -/
def delivered (moves : List Move) : List StreamItem := moves.flatMap deliveredBy

theorem Move.listener_engine_or_other (move : Move) :
    move = .listen ∨ (∃ item, move = .deliver item) ∨ (move ≠ .listen ∧ deliveredBy move = []) := by
  cases move with
  | listen => exact .inl rfl
  | deliver item => exact .inr (.inl ⟨item, rfl⟩)
  | _ => exact .inr (.inr ⟨nofun, rfl⟩)

/-- Whether a move is one of the reader or of its owner. -/
def Move.isReaders : Move → Bool
  | openReader | read | closeReader => true
  | _ => false

/-- What a move of anybody but the listener does to what all of them share: the listener and its
    record stay as they were, a requested stop stays requested, and the notices that are handed out
    come from the front of the channel. -/
structure Beside (move : Move) (state next : State) : Prop where
  listener : next.listener = state.listener
  failure : next.failure = state.failure
  reported : next.reported = state.reported
  subscriptions : next.subscriptions = state.subscriptions
  capacity : next.capacity = state.capacity
  taken : next.taken = state.taken ++ handedBy state move
  channel : handedBy state move ++ next.channel = state.channel
  reader : move.isReaders = false → next.reader = state.reader
  stopRequested : state.stopRequested = true → next.stopRequested = true
  unasked : next.stops = [] → state.stops = [] ∧ next.stopRequested = state.stopRequested

theorem beside_stopStep {call : Nat} {phase : StopCall} {state : State}
    (found : state.stops[call]? = some phase) :
    Beside (.stop call) state (stopStep call phase state) := by
  have called : ∀ later, state.stops.set call later ≠ [] := by
    intro later empty
    rw [List.set_eq_nil_iff] at empty
    simp [empty] at found
  have taken : state.taken = state.taken ++ handedBy state (.stop call) := by simp [handedBy]
  cases phase with
  | closingStream =>
      simp only [stopStep, closeForStop, State.closeStream]
      cases (Feed.afterClosing state.feed.stream.closeFault).outcome <;>
        exact ⟨rfl, rfl, rfl, rfl, rfl, taken, rfl, fun _ => rfl, id,
          fun empty => absurd empty (called _)⟩
  | called =>
      exact ⟨rfl, rfl, rfl, rfl, rfl, taken, rfl, fun _ => rfl, fun _ => rfl,
        fun empty => absurd empty (called _)⟩
  | returned exited | raised fault =>
      exact ⟨rfl, rfl, rfl, rfl, rfl, taken, rfl, fun _ => rfl, id, fun empty => ⟨empty, rfl⟩⟩
  | _ =>
      exact ⟨rfl, rfl, rfl, rfl, rfl, taken, rfl, fun _ => rfl, id,
        fun empty => absurd empty (called _)⟩

theorem beside_readStep {phase : Reader} {state : State} (found : state.reader = some phase) :
    Beside .read state (readStep phase state) := by
  cases phase with
  | polling =>
      simp only [readStep, poll, State.take?]
      cases waiting : state.channel with
      | nil =>
          refine ⟨rfl, rfl, rfl, rfl, rfl, ?_, ?_, nofun, id, fun empty => ⟨empty, rfl⟩⟩ <;>
            simp [handedBy, found, waiting, State.readerAt]
      | cons notice rest =>
          refine ⟨rfl, rfl, rfl, rfl, rfl, ?_, ?_, nofun, id, fun empty => ⟨empty, rfl⟩⟩ <;>
            simp [handedBy, found, waiting, State.readerAt]
  | _ =>
      refine ⟨rfl, rfl, rfl, rfl, rfl, ?_, ?_, nofun, id, fun empty => ⟨empty, rfl⟩⟩ <;>
        simp [handedBy, found, readStep, State.readerAt]

/-- A move that is not the listener's leaves the listener as it was. -/
theorem beside_of_step? {setup : Setup} {state next : State} {move : Move}
    (stepped : step? setup state move = some next) (other : move ≠ .listen) :
    Beside move state next := by
  have taken : state.taken = state.taken ++ [] := (List.append_nil _).symm
  cases move with
  | listen => exact absurd rfl other
  | stop call =>
      obtain ⟨phase, found, rfl⟩ := Option.map_eq_some_iff.mp stepped
      exact beside_stopStep found
  | read =>
      obtain ⟨phase, found, rfl⟩ := Option.map_eq_some_iff.mp stepped
      exact beside_readStep found
  | take =>
      simp only [step?, State.take?] at stepped
      cases waiting : state.channel with
      | nil => simp [waiting] at stepped
      | cons notice rest =>
          simp only [waiting, Option.map_some, Option.some.injEq] at stepped
          subst stepped
          refine ⟨rfl, rfl, rfl, rfl, rfl, ?_, ?_, fun _ => rfl, id, fun empty => ⟨empty, rfl⟩⟩ <;>
            simp [handedBy, waiting]
  | openReader =>
      simp only [step?] at stepped
      split at stepped
      · cases stepped
        exact ⟨rfl, rfl, rfl, rfl, rfl, taken, rfl, nofun, id, fun empty => ⟨empty, rfl⟩⟩
      · cases stepped
  | closeReader =>
      simp only [step?] at stepped
      split at stepped
      · cases stepped
        exact ⟨rfl, rfl, rfl, rfl, rfl, taken, rfl, nofun, id, fun empty => ⟨empty, rfl⟩⟩
      · cases stepped
  | deliver item =>
      cases stepped
      exact ⟨rfl, rfl, rfl, rfl, rfl, taken, rfl, fun _ => rfl, id, fun empty => ⟨empty, rfl⟩⟩
  | callStop =>
      cases stepped
      refine ⟨rfl, rfl, rfl, rfl, rfl, taken, rfl, fun _ => rfl, id, ?_⟩
      simp [callStop, State.note, State.write]

/-! ## All of them -/

section Step

variable {setup : Setup} {state next : State} {move : Move}

theorem taken_of_step? (stepped : step? setup state move = some next) :
    next.taken = state.taken ++ handedBy state move := by
  by_cases own : move = .listen
  · subst own
    cases stepped
    simp [handedBy]
  · exact (beside_of_step? stepped own).taken

/-- The channel is a queue: what is handed out was at its front, and what is put on it comes to its
    end. -/
theorem channel_of_step? (stepped : step? setup state move = some next) :
    handedBy state move ++ next.channel = state.channel ++ putBy state move := by
  by_cases own : move = .listen
  · subst own
    cases stepped
    simp [handedBy]
  · rw [putBy_of_ne own, List.append_nil]
    exact (beside_of_step? stepped own).channel

theorem reader_of_step? (stepped : step? setup state move = some next)
    (others : move.isReaders = false) : next.reader = state.reader := by
  by_cases own : move = .listen
  · subst own
    cases stepped
    exact listen_reader setup state
  · exact (beside_of_step? stepped own).reader others

end Step

end ContainerWatch.Watcher
