import ContainerWatch.Proofs.Watcher.Reading

/-!
# How the feed is closed

A stop call requests the stop and then looks for the feed; the listener makes its feed known and
then looks whether it should stop.  So either the stop call finds the feed and closes it, or the
listener finds the request and reads nothing.  The closing of the feed is itself a look whether it
is closed, a mark and the closing of the stream: a second caller may find the mark while the first
one still goes to close the stream.
-/

namespace ContainerWatch.Watcher

open Engine

/-- Whether the listener has not looked for the first time whether it should stop. -/
def Listener.isBeforeLook : Listener → Bool
  | starting | subscribing | subscribed | armed => true
  | _ => false

/-- Whether the listener has not made its feed known. -/
def Listener.hidesFeed : Listener → Bool
  | starting | subscribing | subscribed => true
  | _ => false

/-- Whether the listener is done with its feed, if it has one. -/
def Listener.isThrough : Listener → Bool
  | finishing _ | recording .. | reporting _ | leaving | exited => true
  | _ => false

/-- Whether a stop call has closed the feed, or has found no feed to close. -/
def StopCall.hasClosed : StopCall → Bool
  | waiting | returned _ | raised _ => true
  | _ => false

variable {setup : Setup} {first state next last : State} {move : Move} {moves : List Move}

/-! ## A stop call -/

/-- The phase that a stop call goes on to. -/
def nextStop (state : State) : StopCall → StopCall
  | .called => .requested
  | .requested => if state.feedKnown then .closing else .waiting
  | .closing => if state.feed.closed then .waiting else .marking
  | .marking => .closingStream
  | .closingStream =>
      match (Feed.afterClosing state.feed.stream.closeFault).outcome with
      | .ok () => .waiting
      | .error fault => .raised fault
  | .waiting => .returned !state.isRunning
  | .returned exited => .returned exited
  | .raised fault => .raised fault

/-- Whether a stop is requested after a step of a stop call. -/
def requestedAfterStop (state : State) : StopCall → Bool
  | .called => true
  | _ => state.stopRequested

/-- The feed after a step of a stop call. -/
def feedAfterStop (state : State) : StopCall → Feed
  | .marking => { state.feed with closed := true }
  | .closingStream => { state.feed with stream := state.feed.stream.close }
  | _ => state.feed

/-- All that a step of a stop call does, but for what it writes into the journal. -/
theorem stopStep_eq {call : Nat} {phase : StopCall} (found : state.stops[call]? = some phase) :
    ∃ journal, stopStep call phase state =
      { state with
        stops := state.stops.set call (nextStop state phase)
        stopRequested := requestedAfterStop state phase
        feed := feedAfterStop state phase
        journal := journal } := by
  cases phase with
  | closingStream =>
      simp only [stopStep, closeForStop, State.closeStream, nextStop]
      cases (Feed.afterClosing state.feed.stream.closeFault).outcome <;>
        exact ⟨_, rfl⟩
  | returned exited | raised fault =>
      -- a call that is over stays where it is
      refine ⟨state.journal, ?_⟩
      have same : ∀ phase, state.stops[call]? = some phase →
          state.stops.set call phase = state.stops := by
        intro phase found
        obtain ⟨bound, rfl⟩ := List.getElem?_eq_some_iff.mp found
        exact List.set_getElem_self bound
      simp only [nextStop, same _ found]
      rfl
  | _ => exact ⟨_, rfl⟩

theorem stopStep_stops {call : Nat} {phase : StopCall} (found : state.stops[call]? = some phase) :
    (stopStep call phase state).stops = state.stops.set call (nextStop state phase) := by
  obtain ⟨journal, eq⟩ := stopStep_eq found
  rw [eq]

/-! ## The arrangement -/

/-- Some stop call goes to close the stream of the feed that it has marked as closed. -/
def HasCloser (state : State) : Prop :=
  ∃ call : Nat, state.stops[call]? = some StopCall.closingStream

/-- How the listener and the stop calls agree on who closes the feed and who reads it. -/
structure Arranged (setup : Setup) (state : State) : Prop where
  /-- A feed that is not known is not read. -/
  unknown : state.feedKnown = false →
    state.listener.hidesFeed = true ∨ state.listener.isOver = true
  /-- A stop call that has taken a step has requested the stop. -/
  requested : ∀ call ∈ state.stops, call ≠ .called → state.stopRequested = true
  /-- Once a stop call has closed, no feed is read that is not marked as closed. -/
  heeded : ∀ call ∈ state.stops, call.hasClosed = true →
    state.feed.closed = true ∨ state.listener.isBeforeLook = true ∨ state.listener.isOver = true
  /-- A stop call closes the stream of a feed that is marked. -/
  marked : HasCloser state → state.feed.closed = true
  /-- The listener closes the stream of a feed that is marked. -/
  markedByListener : ∀ ending, state.listener = .closingStream ending → state.feed.closed = true
  /-- The stream of a feed that is marked is closed, or somebody goes to close it. -/
  closed : state.feed.closed = true →
    state.feed.stream.closed = true ∨ HasCloser state ∨
      ∃ ending, state.listener = .closingStream ending
  /-- A listener that is done has marked its feed, if it has one. -/
  through : state.listener.isThrough = true → setup.subscription = .ok () →
    state.feed.closed = true

theorem arranged_initial (stream : Stream) (snapshot : List Notice) (capacity : Nat) :
    Arranged setup (.initial stream snapshot capacity) where
  unknown _ := .inl rfl
  requested := nofun
  heeded := nofun
  marked := by simp [HasCloser, State.initial]
  markedByListener := nofun
  closed := nofun
  through := nofun

/-! ## The listener's part -/

theorem feedAfter_closed (marked : state.feed.closed = true) :
    (feedAfter state).closed = true := by
  unfold feedAfter
  split <;> first | rfl | exact marked

theorem read_closed (stream : Stream) : stream.read.2.closed = stream.closed := by
  unfold Stream.read Stream.readClosed Stream.readItem
  split
  · split <;> rfl
  · split <;> rfl

theorem feedAfter_stream_closed (closed : state.feed.stream.closed = true) :
    (feedAfter state).stream.closed = true := by
  unfold feedAfter
  split
  · exact (read_closed _).trans closed
  · exact closed
  · rfl
  · exact closed

/-- A listener that is to stop does not come to read past its first look. -/
theorem nextPhase_of_isBeforeLook (before : state.listener.isBeforeLook = true)
    (requested : state.stopRequested = true) :
    (nextPhase setup state).isBeforeLook = true ∨ (nextPhase setup state).isOver = true := by
  cases phase : state.listener with
  | starting | subscribed => exact .inl (by simp [nextPhase, phase, Listener.isBeforeLook])
  | subscribing =>
      simp only [nextPhase, phase]
      cases setup.subscription with
      | ok _ => exact .inl rfl
      | error fault => exact .inr rfl
  | armed => exact .inr (by simp [nextPhase, phase, requested, Listener.isOver])
  | _ => simp [phase, Listener.isBeforeLook] at before

theorem nextPhase_of_feedKnownAfter (arranged : Arranged setup state)
    (unknown : feedKnownAfter state = false) :
    (nextPhase setup state).hidesFeed = true ∨ (nextPhase setup state).isOver = true := by
  cases phase : state.listener with
  | starting => exact .inl (by simp [nextPhase, phase, Listener.hidesFeed])
  | subscribing =>
      simp only [nextPhase, phase]
      cases setup.subscription with
      | ok _ => exact .inl rfl
      | error fault => exact .inr rfl
  | subscribed => simp [feedKnownAfter, phase] at unknown
  | _ =>
      have unknown : state.feedKnown = false := by simpa [feedKnownAfter, phase] using unknown
      rcases arranged.unknown unknown with hides | past
      · simp [phase, Listener.hidesFeed] at hides
      · exact .inr (listen_of_isOver setup past).2.2

theorem feedAfter_closed_of_isThrough (arranged : Arranged setup state)
    (through : (nextPhase setup state).isThrough = true)
    (subscribed : setup.subscription = .ok ()) : (feedAfter state).closed = true := by
  cases phase : state.listener with
  | closing ending =>
      cases marked : state.feed.closed with
      | true => exact feedAfter_closed marked
      | false => simp [nextPhase, phase, marked, Listener.isThrough] at through
  | closingStream ending => exact feedAfter_closed (arranged.markedByListener ending phase)
  | finishing _ | recording _ _ | reporting _ | leaving | exited =>
      exact feedAfter_closed (arranged.through (by rw [phase]; rfl) subscribed)
  | subscribing => simp [nextPhase, phase, subscribed, Listener.isThrough] at through
  | _ =>
      simp only [nextPhase, phase] at through
      (repeat' split at through) <;> simp [Listener.isThrough] at through

theorem arranged_listen (arranged : Arranged setup state) :
    Arranged setup (listen setup state) where
  unknown unknown := by
    rw [listen_feedKnown] at unknown
    rw [listen_listener]
    exact nextPhase_of_feedKnownAfter arranged unknown
  requested := by simpa using arranged.requested
  heeded := by
    intro call member closed
    rw [listen_stops] at member
    rw [listen_feed, listen_listener]
    rcases arranged.heeded call member closed with marked | before | past
    · exact .inl (feedAfter_closed marked)
    · have requested := arranged.requested call member (by rintro rfl; exact absurd closed nofun)
      exact .inr (nextPhase_of_isBeforeLook before requested)
    · exact .inr (.inr (listen_of_isOver setup past).2.2)
  marked := by
    intro closer
    rw [listen_feed]
    exact feedAfter_closed (arranged.marked (by simpa [HasCloser] using closer))
  markedByListener := by
    intro ending closing
    rw [listen_listener] at closing
    rw [listen_feed]
    cases phase : state.listener with
    | marking ending => simp [feedAfter, phase]
    | _ =>
        simp only [nextPhase, phase] at closing
        (repeat' split at closing) <;> cases closing
  closed := by
    intro marked
    rw [listen_feed] at marked ⊢
    cases phase : state.listener with
    | marking ending => exact .inr (.inr ⟨ending, by simp [nextPhase, phase]⟩)
    | closingStream ending => exact .inl (by simp [feedAfter, phase, Stream.close])
    | _ =>
        have marked : state.feed.closed = true := by simpa [feedAfter, phase] using marked
        rcases arranged.closed marked with closed | closer | ⟨ending, closing⟩
        · exact .inl (feedAfter_stream_closed closed)
        · exact .inr (.inl (by simpa [HasCloser] using closer))
        · simp [phase] at closing
  through := by
    intro through subscribed
    rw [listen_listener] at through
    rw [listen_feed]
    exact feedAfter_closed_of_isThrough arranged through subscribed

/-! ## The part of a stop call -/

section StopStep

variable {call : Nat} {phase : StopCall}

theorem feedAfterStop_closed (marked : state.feed.closed = true) :
    (feedAfterStop state phase).closed = true := by
  unfold feedAfterStop
  split <;> first | rfl | exact marked

/-- A call that goes to close the stream still does if another call takes a step. -/
theorem hasCloser_set {journal : List Journal.Entry} {later : StopCall} {requested : Bool}
    {feed : Feed} (found : state.stops[call]? = some phase) (other : phase ≠ .closingStream)
    (closer : HasCloser state) :
    HasCloser { state with
      stops := state.stops.set call later, stopRequested := requested, feed := feed,
      journal := journal } := by
  obtain ⟨closing, goes⟩ := closer
  have apart : call ≠ closing := by
    rintro rfl
    rw [found] at goes
    exact other (Option.some.inj goes)
  exact ⟨closing, by rw [List.getElem?_set_ne apart, goes]⟩

/-- A stop call comes to be past its closing only if no feed that is open is read. -/
theorem heeded_nextStop (arranged : Arranged setup state) (found : state.stops[call]? = some phase)
    (closed : (nextStop state phase).hasClosed = true) :
    (feedAfterStop state phase).closed = true ∨ state.listener.isBeforeLook = true ∨
      state.listener.isOver = true := by
  have member := List.mem_of_getElem? found
  cases phase with
  | called | marking => simp [nextStop, StopCall.hasClosed] at closed
  | requested =>
      cases known : state.feedKnown with
      | true => simp [nextStop, known, StopCall.hasClosed] at closed
      | false =>
          rcases arranged.unknown known with hides | past
          · refine .inr (.inl ?_)
            cases listening : state.listener <;>
              simp_all [Listener.hidesFeed, Listener.isBeforeLook]
          · exact .inr (.inr past)
  | closing =>
      cases marked : state.feed.closed with
      | true => exact .inl (feedAfterStop_closed marked)
      | false => simp [nextStop, marked, StopCall.hasClosed] at closed
  | closingStream => exact .inl (feedAfterStop_closed (arranged.marked ⟨call, found⟩))
  | waiting | returned _ | raised _ =>
      exact (arranged.heeded _ member rfl).imp_left feedAfterStop_closed

/-- Only a call that marks the feed goes on to close its stream. -/
theorem marking_of_nextStop (goes : nextStop state phase = .closingStream) : phase = .marking := by
  cases phase with
  | marking => rfl
  | requested | closing | closingStream =>
      simp only [nextStop] at goes
      split at goes <;> cases goes
  | _ => cases goes

theorem arranged_stopStep (arranged : Arranged setup state)
    (found : state.stops[call]? = some phase) : Arranged setup (stopStep call phase state) := by
  have member := List.mem_of_getElem? found
  have inside : call < state.stops.length := (List.getElem?_eq_some_iff.mp found).1
  obtain ⟨journal, eq⟩ := stopStep_eq found
  rw [eq]
  refine ⟨arranged.unknown, ?_, ?_, ?_, ?_, ?_, ?_⟩
  · intro other member' moved
    have kept : state.stopRequested = true → requestedAfterStop state phase = true := by
      intro requested
      cases phase <;> first | rfl | exact requested
    rcases List.mem_or_eq_of_mem_set member' with old | rfl
    · exact kept (arranged.requested other old moved)
    · cases phase with
      | called => rfl
      | _ => exact kept (arranged.requested _ member nofun)
  · intro other member' closed
    rcases List.mem_or_eq_of_mem_set member' with old | rfl
    · exact (arranged.heeded other old closed).imp_left feedAfterStop_closed
    · exact heeded_nextStop arranged found closed
  · rintro ⟨closing, goes⟩
    by_cases own : call = closing
    · subst own
      rw [List.getElem?_set_self inside] at goes
      rw [marking_of_nextStop (Option.some.inj goes)]
      rfl
    · rw [List.getElem?_set_ne own] at goes
      exact feedAfterStop_closed (arranged.marked ⟨closing, goes⟩)
  · exact fun ending closing => feedAfterStop_closed (arranged.markedByListener ending closing)
  · intro marked
    cases phase with
    | marking => exact .inr (.inl ⟨call, by rw [List.getElem?_set_self inside]; rfl⟩)
    | closingStream => exact .inl rfl
    | _ =>
        rcases arranged.closed marked with closed | closer | closing
        · exact .inl closed
        · exact .inr (.inl (hasCloser_set found nofun closer))
        · exact .inr (.inr closing)
  · exact fun through subscribed => feedAfterStop_closed (arranged.through through subscribed)

end StopStep

/-! ## All moves -/

/-- What a move that is neither the listener's nor a stop call's does to those: at most it calls for
    another stop. -/
structure Aside (state next : State) : Prop where
  listener : next.listener = state.listener
  feedKnown : next.feedKnown = state.feedKnown
  stopRequested : next.stopRequested = state.stopRequested
  marked : next.feed.closed = state.feed.closed
  closed : next.feed.stream.closed = state.feed.stream.closed
  closes : next.feed.stream.closes = state.feed.stream.closes
  stops : next.stops = state.stops ∨ next.stops = state.stops ++ [.called]

theorem aside_readStep (phase : Reader) : Aside state (readStep phase state) := by
  cases phase with
  | polling =>
      simp only [readStep, poll, State.take?]
      cases state.channel <;> exact ⟨rfl, rfl, rfl, rfl, rfl, rfl, .inl rfl⟩
  | _ => exact ⟨rfl, rfl, rfl, rfl, rfl, rfl, .inl rfl⟩

/-- The engine, the readers and whoever calls for a stop leave the listener and the stop calls
    alone. -/
theorem aside_of_step? (stepped : step? setup state move = some next) (other : move ≠ .listen)
    (uninvolved : ∀ call, move ≠ .stop call) : Aside state next := by
  cases move with
  | listen => exact absurd rfl other
  | stop call => exact absurd rfl (uninvolved call)
  | read =>
      obtain ⟨phase, _, rfl⟩ := Option.map_eq_some_iff.mp stepped
      exact aside_readStep phase
  | take =>
      simp only [step?, State.take?] at stepped
      cases waiting : state.channel <;> simp only [waiting] at stepped <;> cases stepped
      exact ⟨rfl, rfl, rfl, rfl, rfl, rfl, .inl rfl⟩
  | openReader | closeReader =>
      simp only [step?] at stepped
      split at stepped <;> cases stepped
      exact ⟨rfl, rfl, rfl, rfl, rfl, rfl, .inl rfl⟩
  | deliver item =>
      cases stepped
      exact ⟨rfl, rfl, rfl, rfl, rfl, rfl, .inl rfl⟩
  | callStop =>
      cases stepped
      exact ⟨rfl, rfl, rfl, rfl, rfl, rfl, .inr rfl⟩

theorem arranged_of_aside (arranged : Arranged setup state) (aside : Aside state next) :
    Arranged setup next := by
  have older : ∀ call ∈ next.stops, call ≠ .called → call ∈ state.stops := by
    intro call member moved
    rcases aside.stops with same | more
    · rwa [same] at member
    · rw [more, List.mem_append, List.mem_singleton] at member
      exact member.resolve_right moved
  have closer : HasCloser next ↔ HasCloser state := by
    unfold HasCloser
    simp only [← List.mem_iff_getElem?]
    rcases aside.stops with same | more
    · rw [same]
    · simp [more]
  refine ⟨?_, ?_, ?_, ?_, ?_, ?_, ?_⟩
  · rw [aside.feedKnown, aside.listener]
    exact arranged.unknown
  · intro call member moved
    rw [aside.stopRequested]
    exact arranged.requested call (older call member moved) moved
  · intro call member closed
    rw [aside.marked, aside.listener]
    exact arranged.heeded call (older call member (by rintro rfl; exact absurd closed nofun)) closed
  · rw [closer, aside.marked]
    exact arranged.marked
  · rw [aside.listener, aside.marked]
    exact arranged.markedByListener
  · rw [aside.marked, aside.closed, closer, aside.listener]
    exact arranged.closed
  · rw [aside.listener, aside.marked]
    exact arranged.through

theorem arranged_of_step? (arranged : Arranged setup state)
    (stepped : step? setup state move = some next) : Arranged setup next := by
  cases move with
  | listen =>
      cases stepped
      exact arranged_listen arranged
  | stop call =>
      obtain ⟨phase, found, rfl⟩ := Option.map_eq_some_iff.mp stepped
      exact arranged_stopStep arranged found
  | _ => exact arranged_of_aside arranged (aside_of_step? stepped nofun nofun)

/-- The listener and the stop calls of an opened watcher keep to the arrangement wherever its run
    has come to. -/
theorem arranged_of_run {options : Options} {client : Client} {watch : Watch}
    (opened : (openWith options client).report.outcome = .ok watch)
    (ran : run? watch.setup watch.state moves = some state) : Arranged watch.setup state :=
  invariant_of_opened opened (fun snapshot _ => arranged_initial _ snapshot _)
    (fun _ _ _ arranged stepped => arranged_of_step? arranged stepped) ran

/-! ## Closing at once -/

/-- The moves by which a stop call that finds the feed open closes it at once; any other move stands
    alone. -/
def Move.whole (state : State) : Move → List Move
  | .stop call =>
      match state.stops[call]?, state.feed.closed with
      | some .closing, false => List.replicate 3 (.stop call)
      | _, _ => [.stop call]
  | move => [move]

/-- A run in which closing the feed is a single step of a stop call. -/
def wholeRun? (setup : Setup) (state : State) : List Move → Option State
  | [] => some state
  | move :: moves =>
      (run? setup state (move.whole state)).bind fun next => wholeRun? setup next moves

/-- No stop call is in the middle of closing the feed. -/
def Undivided (state : State) : Prop :=
  ∀ call ∈ state.stops, call ≠ .marking ∧ call ≠ .closingStream

/-- A run with undivided closings is one of the runs. -/
theorem exists_run_of_wholeRun (ran : wholeRun? setup first moves = some last) :
    ∃ all, run? setup first all = some last := by
  induction moves generalizing first with
  | nil => exact ⟨[], ran⟩
  | cons move moves ih =>
      obtain ⟨next, stepped, ran⟩ := Option.bind_eq_some_iff.mp ran
      obtain ⟨all, ran⟩ := ih ran
      refine ⟨move.whole first ++ all, ?_⟩
      rw [run?_append, stepped, Option.bind_some, ran]

theorem Undivided.not_hasCloser (undivided : Undivided state) : ¬HasCloser state := by
  rintro ⟨call, goes⟩
  exact (undivided _ (List.mem_of_getElem? goes)).2 rfl

/-- A call that goes on to a phase outside of closing leaves nobody in the middle of it. -/
theorem undivided_set {call : Nat} {later : StopCall} (undivided : Undivided state)
    (outside : later ≠ .marking ∧ later ≠ .closingStream)
    (stops : next.stops = state.stops.set call later) : Undivided next := by
  intro other member
  rw [stops] at member
  rcases List.mem_or_eq_of_mem_set member with old | rfl
  · exact undivided other old
  · exact outside

theorem nextStop_outside {phase : StopCall} (outside : phase ≠ .marking ∧ phase ≠ .closingStream)
    (closed : phase = .closing → state.feed.closed = true) :
    nextStop state phase ≠ .marking ∧ nextStop state phase ≠ .closingStream := by
  refine ⟨?_, fun goes => outside.1 (marking_of_nextStop goes)⟩
  intro goes
  cases phase with
  | closing => simp [nextStop, closed rfl] at goes
  | closingStream => exact outside.2 rfl
  | requested =>
      simp only [nextStop] at goes
      split at goes <;> cases goes
  | _ => cases goes

/-- A stop call that finds the feed open has closed it after three steps. -/
theorem closing_at_once {call : Nat} (found : state.stops[call]? = some .closing)
    (opened : state.feed.closed = false)
    (ran : run? setup state (List.replicate 3 (.stop call)) = some next) :
    ∃ later, (later ≠ .marking ∧ later ≠ .closingStream) ∧
      next.stops = state.stops.set call later := by
  obtain ⟨marking, stepped, ran⟩ := run?_cons.mp ran
  obtain ⟨closing, stepped', ran⟩ := run?_cons.mp ran
  obtain ⟨closed, stepped'', ran⟩ := run?_cons.mp ran
  cases ran
  have inside : call < state.stops.length := (List.getElem?_eq_some_iff.mp found).1
  have marks : marking.stops = state.stops.set call .marking := by
    simp only [step?, found, Option.map_some, Option.some.injEq] at stepped
    rw [← stepped, stopStep_stops found, nextStop, opened]
    rfl
  have atMark : marking.stops[call]? = some .marking := by
    rw [marks, List.getElem?_set_self inside]
  have closes : closing.stops = state.stops.set call .closingStream := by
    simp only [step?, atMark, Option.map_some, Option.some.injEq] at stepped'
    rw [← stepped', stopStep_stops atMark, marks, List.set_set]
    rfl
  have atStream : closing.stops[call]? = some .closingStream := by
    rw [closes, List.getElem?_set_self inside]
  refine ⟨nextStop closing .closingStream, ?_, ?_⟩
  · simp only [nextStop]
    split <;> simp
  · simp only [step?, atStream, Option.map_some, Option.some.injEq] at stepped''
    rw [← stepped'', stopStep_stops atStream, closes, List.set_set]

theorem undivided_stop {call : Nat} (undivided : Undivided state)
    (stepped : run? setup state ((Move.stop call).whole state) = some next) : Undivided next := by
  cases found : state.stops[call]? with
  | none => simp [Move.whole, found, run?, step?] at stepped
  | some phase =>
      by_cases begins : phase = .closing ∧ state.feed.closed = false
      · obtain ⟨rfl, opened⟩ := begins
        simp only [Move.whole, found, opened] at stepped
        obtain ⟨later, outside, stops⟩ := closing_at_once found opened stepped
        exact undivided_set undivided outside stops
      · have alone : (Move.stop call).whole state = [.stop call] := by
          simp only [Move.whole, found]
          split
          · simp_all
          · rfl
        obtain ⟨_, stepped, ran⟩ := run?_cons.mp (alone ▸ stepped)
        cases ran
        simp only [step?, found, Option.map_some, Option.some.injEq] at stepped
        subst stepped
        refine undivided_set undivided (nextStop_outside ?_ ?_) (stopStep_stops found)
        · exact undivided phase (List.mem_of_getElem? found)
        · rintro rfl
          simpa using begins

/-- A whole step leaves no stop call in the middle of closing. -/
theorem undivided_of_whole (undivided : Undivided state)
    (stepped : run? setup state (move.whole state) = some next) : Undivided next := by
  cases move with
  | stop call => exact undivided_stop undivided stepped
  | listen =>
      obtain ⟨_, stepped, ran⟩ := run?_cons.mp stepped
      cases ran
      cases stepped
      intro call member
      exact undivided call (by simpa using member)
  | _ =>
      obtain ⟨_, stepped, ran⟩ := run?_cons.mp stepped
      cases ran
      rcases (aside_of_step? stepped nofun nofun).stops with same | more
      · rwa [Undivided, same]
      · intro call member
        rw [more, List.mem_append, List.mem_singleton] at member
        rcases member with old | rfl
        · exact undivided call old
        · exact ⟨nofun, nofun⟩

theorem undivided_of_wholeRun (undivided : Undivided first)
    (ran : wholeRun? setup first moves = some last) : Undivided last := by
  induction moves generalizing first with
  | nil =>
      cases ran
      exact undivided
  | cons move moves ih =>
      obtain ⟨next, stepped, ran⟩ := Option.bind_eq_some_iff.mp ran
      exact ih (undivided_of_whole undivided stepped) ran

/-! ## What a stop reaches -/

/-- Some stop call closes the stream with its next step. -/
def AboutToClose (setup : Setup) (state : State) : Prop :=
  ∃ call next, step? setup state (.stop call) = some next ∧ next.feed.stream.closed = true

/-- A call that goes to close the stream closes it with its next step. -/
theorem aboutToClose_of_hasCloser (closer : HasCloser state) : AboutToClose setup state := by
  obtain ⟨call, goes⟩ := closer
  refine ⟨call, stopStep call .closingStream state, by simp [step?, goes], ?_⟩
  obtain ⟨journal, eq⟩ := stopStep_eq goes
  rw [eq]
  rfl

theorem receivedBy_of_isBeforeLook (requested : first.stopRequested = true)
    (before : first.listener.isBeforeLook = true) (ran : run? setup first moves = some last) :
    history receivedBy setup first moves = [] := by
  have unread : history receivedBy setup first moves = [] ∧ last.stopRequested = true ∧
      (last.listener.isBeforeLook = true ∨ last.listener.isOver = true) := by
    refine run?_induction (motive := fun moves state =>
      history receivedBy setup first moves = [] ∧ state.stopRequested = true ∧
        (state.listener.isBeforeLook = true ∨ state.listener.isOver = true))
      ⟨rfl, requested, .inl before⟩ ?_ ran
    rintro moves state move next ran ⟨unread, requested, phase⟩ stepped
    rw [history_snoc _ ran stepped, unread]
    by_cases own : move = .listen
    · subst own
      cases stepped
      rw [listen_stopRequested, listen_listener]
      rcases phase with before | past
      · refine ⟨?_, requested, nextPhase_of_isBeforeLook before requested⟩
        cases listening : state.listener <;>
          simp_all [receivedBy, Listener.isBeforeLook]
      · obtain ⟨_, noPayload, stays⟩ := listen_of_isOver setup past
        exact ⟨noPayload, requested, .inr stays⟩
    · have beside := beside_of_step? stepped own
      refine ⟨receivedBy_of_ne own, beside.stopRequested requested, ?_⟩
      rwa [beside.listener]
  exact unread.1

/-- A listener that has not looked whether it should stop has read no payload. -/
theorem unread_of_isBeforeLook {options : Options} {client : Client} {watch : Watch}
    (opened : (openWith options client).report.outcome = .ok watch)
    (ran : run? watch.setup watch.state moves = some state)
    (before : state.listener.isBeforeLook = true) :
    history receivedBy watch.setup watch.state moves = [] := by
  have accounted := accounted_of_run opened ran
  cases phase : state.listener <;> simp only [phase, Listener.isBeforeLook] at before accounted <;>
    first | exact accounted.1 | cases before

/-- A stop reaches the listener.  Once a stop call has closed, or has found no feed to close, the
    listener does not wait for a stream that stays open: the stream is closed, or another stop call
    that is in the middle of closing closes it with its next step.  A listener that is to stop
    before it has looked for the first time, be it that it still waits for its subscription, reads
    no payload at all.  And a listener that has exited after it has subscribed leaves no stream
    open, but for one that a stop call closes with its next step.  Where closing is a single step of
    a stop call, nobody is in the middle of it, and the stream is closed in each case. -/
theorem stop_reaches_listener {options : Options} {client : Client} {watch : Watch}
    (opened : (openWith options client).report.outcome = .ok watch) :
    (∀ moves state, run? watch.setup watch.state moves = some state →
      ((∃ call ∈ state.stops, call.hasClosed = true) → state.listener = .reading →
        state.feed.stream.closed = true ∨ AboutToClose watch.setup state) ∧
      (state.stopRequested = true → state.listener.isBeforeLook = true →
        ∀ later last, run? watch.setup state later = some last →
          history receivedBy watch.setup watch.state (moves ++ later) = []) ∧
      (state.listener = .exited → client.subscribe = .ok () →
        state.feed.stream.closed = true ∨ AboutToClose watch.setup state)) ∧
    ∀ moves state, wholeRun? watch.setup watch.state moves = some state →
      ((∃ call ∈ state.stops, call.hasClosed = true) → state.listener = .reading →
        state.feed.stream.closed = true) ∧
      (state.listener = .exited → client.subscribe = .ok () → state.feed.stream.closed = true) := by
  obtain ⟨_, snapshot, _, _, _, subscription, _, start⟩ := openWith_eq_ok opened
  have closes : ∀ moves state, run? watch.setup watch.state moves = some state →
      ((∃ call ∈ state.stops, call.hasClosed = true) → state.listener = .reading →
        state.feed.stream.closed = true ∨ HasCloser state) ∧
      (state.listener = .exited → client.subscribe = .ok () →
        state.feed.stream.closed = true ∨ HasCloser state) := by
    intro moves state ran
    have arranged := arranged_of_run opened ran
    refine ⟨?_, ?_⟩
    · rintro ⟨call, member, closed⟩ reading
      have marked : state.feed.closed = true := by
        simpa [reading, Listener.isBeforeLook, Listener.isOver] using
          arranged.heeded call member closed
      simpa [reading] using arranged.closed marked
    · intro exited subscribed
      have marked := arranged.through (by rw [exited]; rfl) (subscription.trans subscribed)
      simpa [exited] using arranged.closed marked
  refine ⟨?_, ?_⟩
  · intro moves state ran
    obtain ⟨reads, leaves⟩ := closes moves state ran
    refine ⟨?_, ?_, ?_⟩
    · exact fun stopped reading => (reads stopped reading).imp_right aboutToClose_of_hasCloser
    · intro requested before later last ranOn
      rw [history_append _ _ _ ran, unread_of_isBeforeLook opened ran before,
        receivedBy_of_isBeforeLook requested before ranOn, List.append_nil]
    · exact fun exited subscribed =>
        (leaves exited subscribed).imp_right aboutToClose_of_hasCloser
  · intro moves state ran
    obtain ⟨all, reached⟩ := exists_run_of_wholeRun ran
    have undivided : Undivided state :=
      undivided_of_wholeRun (by simp [start, Undivided, State.initial]) ran
    obtain ⟨reads, leaves⟩ := closes all state reached
    exact ⟨fun stopped reading => (reads stopped reading).resolve_right undivided.not_hasCloser,
      fun exited subscribed => (leaves exited subscribed).resolve_right undivided.not_hasCloser⟩

set_option maxRecDepth 4000 in
/-- A stop call closes the stream that the listener reads.  Another one comes while the listener
    waits for its subscription, and the listener exits without having read the message on the
    stream. -/
theorem stop_reaches_listener_of_example :
    ∃ watch reading early exited,
      (openWith exampleOptions exampleClient).report.outcome = .ok watch ∧
      wholeRun? watch.setup watch.state
        (List.replicate 4 .listen ++ .callStop :: List.replicate 3 (.stop 0)) = some reading ∧
      reading.listener = .reading ∧ reading.stops = [.waiting] ∧
      reading.feed.stream.closed = true ∧
      run? watch.setup watch.state [.listen, .callStop, .stop 0] = some early ∧
      early.listener = .subscribing ∧
      run? watch.setup early (List.replicate 9 .listen) = some exited ∧
      exited.listener = .exited ∧
      history receivedBy watch.setup watch.state
        ([.listen, .callStop, .stop 0] ++ List.replicate 9 .listen) = [] := by
  obtain ⟨watch, reading, early, exited, opened, ran, reads, stopped, started, waits, requested,
      ranOn, leaves⟩ :
      ∃ watch reading early exited,
        (openWith exampleOptions exampleClient).report.outcome = .ok watch ∧
        wholeRun? watch.setup watch.state
          (List.replicate 4 .listen ++ .callStop :: List.replicate 3 (.stop 0)) = some reading ∧
        reading.listener = .reading ∧ reading.stops = [.waiting] ∧
        run? watch.setup watch.state [.listen, .callStop, .stop 0] = some early ∧
        early.listener = .subscribing ∧ early.stopRequested = true ∧
        run? watch.setup early (List.replicate 9 .listen) = some exited ∧
        exited.listener = .exited :=
    ⟨_, _, _, _, rfl, rfl, rfl, rfl, rfl, rfl, rfl, rfl, rfl⟩
  obtain ⟨divided, undivided⟩ := stop_reaches_listener opened
  refine ⟨watch, reading, early, exited, opened, ran, reads, stopped, ?_, started, waits, ranOn,
    leaves, ?_⟩
  · exact (undivided _ _ ran).1 ⟨.waiting, by simp [stopped], rfl⟩ reads
  · exact (divided _ _ started).2.1 requested (by rw [waits]; rfl) _ _ ranOn

end ContainerWatch.Watcher
