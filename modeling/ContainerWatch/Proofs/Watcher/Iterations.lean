import ContainerWatch.Proofs.Engine.Iterations
import ContainerWatch.Proofs.Watcher.Feeds

/-!
# The iteration of a listener

A listener reads its feed by a single iteration.  What it does between two readings, and whether it
abandons the iteration, makes no difference to what the iteration would yield; the feed is closed
meanwhile by the listener or by a stop call.
-/

namespace ContainerWatch.Watcher

open Engine

variable {setup : Setup} {state next : State} {move : Move} {moves : List Move}
  {iteration : Iteration}

/-- The turns that a move is for the iteration over the feed. -/
def turnsBy (state : State) : Move → List Turn
  | .listen =>
      match state.listener with
      | .reading => [.next]
      | .broken _ => [.handle]
      | .marking _ => [.mark]
      | .closingStream _ => [.closeStream]
      | _ => []
  | .stop call =>
      match state.stops[call]? with
      | some .marking => [.mark]
      | some .closingStream => [.closeStream]
      | _ => []
  | .deliver item => [.deliver item]
  | _ => []

/-- The messages that a move hands to the listener. -/
def messagesBy (state : State) : Move → List Message
  | .listen =>
      match state.listener with
      | .reading => Iteration.messagesOf state.feed.read.1
      | _ => []
  | _ => []

/-- Where a listener is in its iteration.  One that goes to close the feed has come to the end of the
    iteration, or has abandoned it. -/
def InPhase : Listener → IterationPhase → Prop
  | .broken fault, phase => phase = .broken fault
  | .closing ending, phase | .marking ending, phase => phase = .going ∨ phase = .ended ending
  | .closingStream _, _ | .finishing _, _ | .recording .., _ | .reporting _, _ | .leaving, _
  | .exited, _ => True
  | _, phase => phase = .going

/-- A listener that reads by an iteration. -/
structure Iterates (state : State) (messages : List Message) (iteration : Iteration) : Prop where
  feed : iteration.feed = state.feed
  yielded : iteration.yielded = messages
  phase : InPhase state.listener iteration.phase

/-- A listener that does not read goes on to a phase that fits where the iteration is. -/
theorem inPhase_nextPhase {phase : IterationPhase} (inPhase : InPhase state.listener phase)
    (idle : state.listener ≠ .reading) (whole : ∀ fault, state.listener ≠ .broken fault) :
    InPhase (nextPhase setup state) phase := by
  cases listening : state.listener with
  | reading => exact absurd listening idle
  | broken fault => exact absurd listening (whole fault)
  | closing ending =>
      rw [listening] at inPhase
      simp only [nextPhase, listening]
      cases state.feed.closed with
      | true => trivial
      | false => exact inPhase
  | marking ending => simp [nextPhase, listening, InPhase]
  | closingStream ending | finishing ending =>
      simp only [nextPhase, listening]
      (repeat' split) <;> trivial
  | recording _ _ | reporting _ | leaving | exited => simp [nextPhase, listening, InPhase]
  | _ =>
      rw [listening] at inPhase
      simp only [nextPhase, listening]
      (repeat' split) <;> first | exact inPhase | exact .inl inPhase | trivial

/-- A listener that reads asks its iteration for a message. -/
theorem iterates_read {messages : List Message} (iterates : Iterates state messages iteration)
    (listening : state.listener = .reading) :
    Iterates (listen setup state) (messages ++ messagesBy state .listen)
      (iteration.after (turnsBy state .listen)) := by
  obtain ⟨feed, rfl, phase⟩ := iterates
  rw [listening] at phase
  have resumes : iteration.after (turnsBy state .listen) = iteration.resume := by
    have going : iteration.phase = .going := phase
    simp [turnsBy, listening, Iteration.after, Iteration.turn, going]
  rw [resumes]
  refine ⟨?_, ?_, ?_⟩
  · rw [listen_feed, feedAfter, listening, ← feed]
    rfl
  · simp only [messagesBy, listening, ← feed]
    rfl
  · rw [listen_listener, nextPhase, listening, ← feed]
    show InPhase _ (Iteration.phaseOf (Feed.ofReading iteration.feed.stream.read.1))
    cases Feed.ofReading iteration.feed.stream.read.1 with
    | finished => exact .inr rfl
    | _ => rfl

/-- A listener whose reading broke handles the fault as its iteration does. -/
theorem iterates_handle {messages : List Message} {fault : Fault}
    (iterates : Iterates state messages iteration) (listening : state.listener = .broken fault) :
    Iterates (listen setup state) (messages ++ messagesBy state .listen)
      (iteration.after (turnsBy state .listen)) := by
  obtain ⟨feed, rfl, phase⟩ := iterates
  rw [listening] at phase
  have handles : iteration.after (turnsBy state .listen)
      = { iteration with phase := .ended (Feed.endingOf iteration.feed.closed fault) } := by
    have broken : iteration.phase = .broken fault := phase
    simp [turnsBy, listening, Iteration.after, Iteration.turn, broken]
  rw [handles]
  refine ⟨?_, ?_, ?_⟩
  · rw [listen_feed, feedAfter, listening]
    exact feed
  · simp only [messagesBy, listening, List.append_nil]
  · rw [listen_listener, nextPhase, listening, ← feed]
    exact .inr rfl

/-- A step of the listener is what its turns are for the iteration. -/
theorem iterates_listen {messages : List Message} (iterates : Iterates state messages iteration) :
    Iterates (listen setup state) (messages ++ messagesBy state .listen)
      (iteration.after (turnsBy state .listen)) := by
  cases listening : state.listener with
  | reading => exact iterates_read iterates listening
  | broken fault => exact iterates_handle iterates listening
  | marking ending | closingStream ending =>
      obtain ⟨feed, rfl, phase⟩ := iterates
      have later : InPhase (nextPhase setup state) iteration.phase :=
        inPhase_nextPhase phase (by simp [listening]) (by simp [listening])
      refine ⟨?_, ?_, ?_⟩
      · rw [listen_feed, feedAfter, listening, ← feed]
        simp only [turnsBy, listening]
        rfl
      · simp only [turnsBy, messagesBy, listening, List.append_nil]
        rfl
      · rw [listen_listener]
        simp only [turnsBy, listening]
        exact later
  | _ =>
      obtain ⟨feed, rfl, phase⟩ := iterates
      have later : InPhase (nextPhase setup state) iteration.phase :=
        inPhase_nextPhase phase (by simp [listening]) (by simp [listening])
      refine ⟨?_, ?_, ?_⟩
      · rw [listen_feed, feedAfter, listening]
        simp only [turnsBy, listening]
        exact feed
      · simp only [turnsBy, messagesBy, listening, List.append_nil]
        rfl
      · rw [listen_listener]
        simp only [turnsBy, listening]
        exact later

/-- A move of anybody else is what its turns are for the iteration, and at most closes the feed or adds
    to its stream. -/
theorem iterates_of_beside {messages : List Message} (other : move ≠ .listen)
    (stepped : step? setup state move = some next)
    (iterates : Iterates state messages iteration) :
    Iterates next messages (iteration.after (turnsBy state move)) := by
  obtain ⟨feed, yielded, phase⟩ := iterates
  rw [← (beside_of_step? stepped other).listener] at phase
  have feedLater := feed_of_step? stepped
  cases move with
  | listen => exact absurd rfl other
  | deliver item =>
      refine ⟨?_, yielded, phase⟩
      rw [feedLater, feedBy, ← feed]
      rfl
  | stop call =>
      simp only [feedBy] at feedLater
      simp only [turnsBy]
      cases found : state.stops[call]? with
      | none =>
          rw [found] at feedLater
          exact ⟨feed.trans feedLater.symm, yielded, phase⟩
      | some stage =>
          rw [found] at feedLater
          cases stage with
          | marking | closingStream =>
              refine ⟨?_, yielded, phase⟩
              simp only [feedLater, feedAfterStop, ← feed]
              rfl
          | _ => exact ⟨feed.trans feedLater.symm, yielded, phase⟩
  | _ => exact ⟨feed.trans feedLater.symm, yielded, phase⟩

section Opened

variable {options : Options} {client : Client} {watch : Watch}

/-- The listener of an opened watcher reads its feed by one iteration, wherever a run has come to. -/
theorem iterates_of_run (opened : (openWith options client).report.outcome = .ok watch)
    (ran : run? watch.setup watch.state moves = some state) :
    Iterates state (history messagesBy watch.setup watch.state moves)
      ((Iteration.ofFeed (.ofStream client.stream)).after
        (history turnsBy watch.setup watch.state moves)) := by
  obtain ⟨_, snapshot, _, _, _, _, _, start⟩ := openWith_eq_ok opened
  refine run?_induction (motive := fun moves state =>
    Iterates state (history messagesBy watch.setup watch.state moves)
      ((Iteration.ofFeed (.ofStream client.stream)).after
        (history turnsBy watch.setup watch.state moves))) ?_ ?_ ran
  · rw [start]
    exact ⟨rfl, rfl, rfl⟩
  · intro before state move next ran iterates stepped
    rw [history_snoc _ ran stepped, history_snoc _ ran stepped, Iteration.after_append]
    by_cases own : move = .listen
    · subst own
      cases stepped
      exact iterates_listen iterates
    · have nothing : messagesBy state move = [] := by
        cases move with
        | listen => exact absurd rfl own
        | _ => rfl
      rw [nothing, List.append_nil]
      exact iterates_of_beside own stepped iterates

end Opened

/-- The law of iterating over a feed, for every stream and whatever happens meanwhile.  The iteration
    takes items of the script in their order, and once the stream is closed, or is a recorded one, it
    meets what is behind them.  It yields the messages of the payloads that it meets, in their order,
    up to the first reading that breaks, be it a failure of the stream or a payload that is no
    message, or to the end.  A break ends it when it is handled: a fault of the engine, of the
    operating system or of a value's range is the end of a feed that somebody has marked as closed by
    then, and else a failure of collecting with that fault as its cause; any other fault stays what
    it is.  After a break or the end it yields nothing more and its ending stays.  It waits only for a
    live stream that is open and holds nothing.  All this is so of what visits and listeners do: a
    visit asks such an iteration for each of its messages, and a listener gets its messages from one,
    and goes to close the feed with the ending of it or without having come to its end. -/
theorem iteration_follows_script :
    (∀ (stream : Stream) (turns : List Turn), ∃ taken late,
      taken ++ ((Iteration.ofFeed (.ofStream stream)).after turns).feed.stream.items
        = stream.items ++ deliveredIn turns ∧
      late <+: stream.lateReadings ∧
      (late ≠ [] →
        stream.recorded = true ∨ stream.closed = true ∨ turns.any (·.isCloseStream) = true) ∧
      Accounts stream turns (taken.map Stream.reading ++ late)
        ((Iteration.ofFeed (.ofStream stream)).after turns).yielded
        ((Iteration.ofFeed (.ofStream stream)).after turns).phase) ∧
    (∀ iteration : Iteration, iteration.phase ≠ .going → ∀ turns,
      (iteration.after turns).yielded = iteration.yielded ∧
      ∀ ending, iteration.phase = .ended ending →
        (iteration.after turns).phase = .ended ending) ∧
    (∀ iteration : Iteration, iteration.phase = .going → (iteration.turn .next).phase = .going →
      (iteration.turn .next).yielded = iteration.yielded →
        iteration.feed.stream.items = [] ∧ iteration.feed.stream.closed = false ∧
        iteration.feed.stream.recorded = false) ∧
    (∀ (visit : Visit) (client : Client),
      Visits (visit.subscribed client)
        (.ofFeed (.ofStream { client.stream with recorded := true }))) ∧
    (∀ (visit : Visit) (iteration : Iteration), Visits visit iteration →
      (visit.call .next).1 = nextAnswer iteration ∧
      Visits (visit.call .next).2 (iteration.after [.next, .handle]) ∧
      Visits (visit.call .closeFeed).2 (iteration.after (closingTurns iteration.feed))) ∧
    ∀ (options : Options) (client : Client) (watch : Watch) (moves : List Move) (state : State),
      (openWith options client).report.outcome = .ok watch →
      run? watch.setup watch.state moves = some state →
        Iterates state (history messagesBy watch.setup watch.state moves)
          ((Iteration.ofFeed (.ofStream client.stream)).after
            (history turnsBy watch.setup watch.state moves)) := by
  refine ⟨?_, ?_, ?_, visits_subscribed, ?_, ?_⟩
  · intro stream turns
    obtain ⟨taken, late, follows⟩ := follows_after stream turns
    refine ⟨taken, late, follows.items, follows.begun, ?_, follows.accounts⟩
    intro met
    have behind := follows.behind met
    rwa [Iteration.after_stream_closed, Bool.or_eq_true] at behind
  · intro iteration stopped turns
    obtain ⟨yields, _, ends⟩ := Iteration.after_of_ne_going stopped turns
    exact ⟨yields, ends⟩
  · intro iteration going stays nothing
    exact Iteration.waits_only_for_items going stays nothing
  · intro visit iteration visits
    obtain ⟨answers, asked⟩ := visits.next
    exact ⟨answers, asked, visits.closeFeed⟩
  · intro options client watch moves state opened ran
    exact iterates_of_run opened ran

/-- A client whose stream breaks behind a message. -/
def resetClient : Client := { items := [.payload cacheStarted, .failure resetFault] }

/-- Turns in which an iteration yields a message, meets a break and handles it, and somebody closes
    the feed only thereafter. -/
def brokenTurns : List Turn := [.next, .next, .handle, .mark, .closeStream]

set_option maxRecDepth 4000 in
/-- The connection is reset behind a message, which an iteration has yielded.  It ends in a failure of
    collecting, as the feed was open when the break was handled, and yields nothing more.  A listener
    of that stream has been given the same message by such an iteration. -/
theorem iteration_follows_script_of_example :
    ∃ message watch state, ((Iteration.ofFeed (.ofStream resetClient.stream)).after brokenTurns).yielded
        = [message] ∧
      (∃ fault, HandledAs resetClient.stream brokenTurns fault
        (.failed (.collecting "docker event stream failed" resetFault))) ∧
      (((Iteration.ofFeed (.ofStream resetClient.stream)).after brokenTurns).after
        [.next, .next]).yielded = [message] ∧
      (openWith exampleOptions resetClient).report.outcome = .ok watch ∧
      run? watch.setup watch.state (List.replicate 10 .listen) = some state ∧
      state.listener = .broken resetFault ∧
      ((Iteration.ofFeed (.ofStream resetClient.stream)).after
        (history turnsBy watch.setup watch.state (List.replicate 10 .listen))).phase
          = .broken resetFault := by
  obtain ⟨message, yields, ended⟩ :
      ∃ message,
        ((Iteration.ofFeed (.ofStream resetClient.stream)).after brokenTurns).yielded = [message] ∧
        ((Iteration.ofFeed (.ofStream resetClient.stream)).after brokenTurns).phase
          = .ended (.failed (.collecting "docker event stream failed" resetFault)) :=
    ⟨_, rfl, rfl⟩
  obtain ⟨watch, state, opened, ran, broken⟩ :
      ∃ watch state, (openWith exampleOptions resetClient).report.outcome = .ok watch ∧
        run? watch.setup watch.state (List.replicate 10 .listen) = some state ∧
        state.listener = .broken resetFault :=
    ⟨_, _, rfl, rfl, rfl⟩
  obtain ⟨law, stops, _, _, _, listens⟩ := iteration_follows_script
  obtain ⟨_, _, _, _, _, accounts⟩ := law resetClient.stream brokenTurns
  rw [ended] at accounts
  obtain ⟨_, _, _, _, finished | ⟨fault, _, handled⟩⟩ := accounts
  · cases finished.2
  · have more := stops _ (by rw [ended]; nofun) [.next, .next]
    have iterates := listens _ _ _ _ _ opened ran
    have inPhase := iterates.phase
    rw [broken] at inPhase
    exact ⟨message, watch, state, yields, ⟨fault, handled⟩, more.1.trans yields, opened, ran, broken,
      inPhase⟩

end ContainerWatch.Watcher
