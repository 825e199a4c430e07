import ContainerWatch.Proofs.Watcher.Closing

/-!
# How often the stream is closed

Whoever closes the feed looks whether it is closed, marks it as closed and then closes its stream.
So the stream is closed once by each caller that has found the feed open.  There is only one such
caller unless two of them overlap: both have found the feed open, and neither has marked it.
-/

namespace ContainerWatch.Watcher

open Engine

variable {setup : Setup} {first state next last : State} {move : Move} {moves : List Move}

/-! ## Callers that close the feed -/

/-- Whether a stop call has found the feed open and not marked it. -/
def StopCall.isMarking : StopCall → Bool
  | marking => true
  | _ => false

/-- Whether a stop call has marked the feed and not closed its stream. -/
def StopCall.isClosingStream : StopCall → Bool
  | closingStream => true
  | _ => false

/-- Whether the listener has found the feed open and not marked it. -/
def Listener.isMarking : Listener → Bool
  | marking _ => true
  | _ => false

/-- Whether the listener has marked the feed and not closed its stream. -/
def Listener.isClosingStream : Listener → Bool
  | closingStream _ => true
  | _ => false

/-- How many callers have found the feed open and not marked it. -/
def markers (state : State) : Nat :=
  state.listener.isMarking.toNat + state.stops.countP (·.isMarking)

/-- How many callers have marked the feed and not closed its stream. -/
def closers (state : State) : Nat :=
  state.listener.isClosingStream.toNat + state.stops.countP (·.isClosingStream)

/-- How many callers have found the feed open so far. -/
def finders (state : State) : Nat := markers state + closers state + state.feed.stream.closes

/-- What a move does to the closing of the feed: a caller finds the feed open, or marks it, or closes
    its stream, or nobody goes on with closing. -/
inductive Closing (state next : State) : Prop
  | finds (unmarked : state.feed.closed = false) (same : next.feed.closed = false)
      (markers : markers next = markers state + 1) (closers : closers next = closers state)
      (closes : next.feed.stream.closes = state.feed.stream.closes)
  | marks (marked : next.feed.closed = true)
      (markers : markers next + 1 = markers state) (closers : closers next = closers state + 1)
      (closes : next.feed.stream.closes = state.feed.stream.closes)
  | closes (same : next.feed.closed = state.feed.closed)
      (markers : markers next = markers state) (closers : closers next + 1 = closers state)
      (closes : next.feed.stream.closes = state.feed.stream.closes + 1)
  | rests (same : next.feed.closed = state.feed.closed)
      (markers : markers next = markers state) (closers : closers next = closers state)
      (closes : next.feed.stream.closes = state.feed.stream.closes)

theorem read_closes (stream : Stream) : stream.read.2.closes = stream.closes := by
  unfold Stream.read Stream.readClosed Stream.readItem
  split
  · split <;> rfl
  · split <;> rfl

/-! ## The listener's part -/

theorem markers_listen (setup : Setup) (state : State) :
    markers (listen setup state) + state.listener.isMarking.toNat
      = markers state + (nextPhase setup state).isMarking.toNat := by
  simp only [markers, listen_listener, listen_stops]
  omega

theorem closers_listen (setup : Setup) (state : State) :
    closers (listen setup state) + state.listener.isClosingStream.toNat
      = closers state + (nextPhase setup state).isClosingStream.toNat := by
  simp only [closers, listen_listener, listen_stops]
  omega

/-- A listener comes to mark the feed only from its look at the feed. -/
theorem nextPhase_isMarking_eq_false (other : ∀ ending, state.listener ≠ .closing ending) :
    (nextPhase setup state).isMarking = false := by
  cases phase : state.listener with
  | closing ending => exact absurd phase (other ending)
  | _ =>
      simp only [nextPhase, phase]
      (repeat' split) <;> rfl

/-- A listener comes to close the stream only from marking the feed. -/
theorem nextPhase_isClosingStream_eq_false (other : ∀ ending, state.listener ≠ .marking ending) :
    (nextPhase setup state).isClosingStream = false := by
  cases phase : state.listener with
  | marking ending => exact absurd phase (other ending)
  | _ =>
      simp only [nextPhase, phase]
      (repeat' split) <;> rfl

theorem closing_listen (setup : Setup) (state : State) : Closing state (listen setup state) := by
  have marking := markers_listen setup state
  have closing := closers_listen setup state
  have feed := listen_feed setup state
  cases phase : state.listener with
  | closing ending =>
      rw [phase] at marking closing
      simp only [feedAfter, phase] at feed
      cases marked : state.feed.closed with
      | false =>
          simp [nextPhase, phase, marked, Listener.isMarking, Listener.isClosingStream]
            at marking closing
          exact .finds marked (by rw [feed, marked]) marking closing (by rw [feed])
      | true =>
          simp [nextPhase, phase, marked, Listener.isMarking, Listener.isClosingStream]
            at marking closing
          exact .rests (by rw [feed]) marking closing (by rw [feed])
  | marking ending =>
      rw [phase] at marking closing
      simp only [feedAfter, phase] at feed
      simp [nextPhase, phase, Listener.isMarking, Listener.isClosingStream] at marking closing
      exact .marks (by rw [feed]) marking closing (by rw [feed])
  | closingStream ending =>
      rw [nextPhase_isMarking_eq_false (by simp [phase]), phase] at marking
      rw [nextPhase_isClosingStream_eq_false (by simp [phase]), phase] at closing
      simp only [feedAfter, phase] at feed
      exact .closes (by rw [feed]) marking closing (by rw [feed]; rfl)
  | reading =>
      rw [nextPhase_isMarking_eq_false (by simp [phase]), phase] at marking
      rw [nextPhase_isClosingStream_eq_false (by simp [phase]), phase] at closing
      simp only [feedAfter, phase] at feed
      exact .rests (by rw [feed]) marking closing (by rw [feed, read_closes])
  | _ =>
      rw [nextPhase_isMarking_eq_false (by simp [phase]), phase] at marking
      rw [nextPhase_isClosingStream_eq_false (by simp [phase]), phase] at closing
      simp only [feedAfter, phase] at feed
      exact .rests (by rw [feed]) marking closing (by rw [feed])

/-! ## The part of a stop call -/

section StopStep

variable {call : Nat} {phase : StopCall}

/-- Where a stop call goes on, the calls with a property change by those two phases. -/
theorem countP_stops_set (property : StopCall → Bool) (found : state.stops[call]? = some phase)
    (later : StopCall) :
    (state.stops.set call later).countP property + (property phase).toNat
      = state.stops.countP property + (property later).toNat := by
  obtain ⟨inside, rfl⟩ := List.getElem?_eq_some_iff.mp found
  have counted : (property state.stops[call]).toNat ≤ state.stops.countP property := by
    cases holds : property state.stops[call] with
    | false => exact Nat.zero_le _
    | true => exact List.countP_pos_iff.mpr ⟨_, List.getElem_mem inside, holds⟩
  rw [List.countP_set inside]
  cases holds : property state.stops[call] <;> cases property later <;> simp_all

theorem markers_stopStep (found : state.stops[call]? = some phase) :
    markers (stopStep call phase state) + phase.isMarking.toNat
      = markers state + (nextStop state phase).isMarking.toNat := by
  have counted := countP_stops_set (·.isMarking) found (nextStop state phase)
  obtain ⟨journal, eq⟩ := stopStep_eq found
  rw [eq]
  simp only [markers]
  omega

theorem closers_stopStep (found : state.stops[call]? = some phase) :
    closers (stopStep call phase state) + phase.isClosingStream.toNat
      = closers state + (nextStop state phase).isClosingStream.toNat := by
  have counted := countP_stops_set (·.isClosingStream) found (nextStop state phase)
  obtain ⟨journal, eq⟩ := stopStep_eq found
  rw [eq]
  simp only [closers]
  omega

theorem closing_stopStep (found : state.stops[call]? = some phase) :
    Closing state (stopStep call phase state) := by
  have marking := markers_stopStep found
  have closing := closers_stopStep found
  have feed : (stopStep call phase state).feed = feedAfterStop state phase := by
    obtain ⟨journal, eq⟩ := stopStep_eq found
    rw [eq]
  cases phase with
  | requested =>
      have known : (nextStop state .requested).isMarking = false ∧
          (nextStop state .requested).isClosingStream = false := by
        simp only [nextStop]
        split <;> exact ⟨rfl, rfl⟩
      rw [known.1] at marking
      rw [known.2] at closing
      exact .rests (by rw [feed]; rfl) marking closing (by rw [feed]; rfl)
  | closing =>
      cases marked : state.feed.closed with
      | false =>
          simp only [nextStop, marked] at marking closing
          exact .finds marked (by rw [feed]; exact marked) marking closing (by rw [feed]; rfl)
      | true =>
          simp only [nextStop, marked] at marking closing
          exact .rests (by rw [feed]; rfl) marking closing (by rw [feed]; rfl)
  | marking => exact .marks (by rw [feed]; rfl) marking closing (by rw [feed]; rfl)
  | closingStream =>
      have known : (nextStop state .closingStream).isMarking = false ∧
          (nextStop state .closingStream).isClosingStream = false := by
        simp only [nextStop]
        split <;> exact ⟨rfl, rfl⟩
      rw [known.1] at marking
      rw [known.2] at closing
      exact .closes (by rw [feed]; rfl) marking closing (by rw [feed]; rfl)
  | _ => exact .rests (by rw [feed]; rfl) marking closing (by rw [feed]; rfl)

end StopStep

/-! ## Whole runs -/

theorem closing_of_aside (aside : Aside state next) : Closing state next := by
  refine .rests aside.marked ?_ ?_ aside.closes
  · unfold markers
    rcases aside.stops with same | more
    · rw [aside.listener, same]
    · rw [aside.listener, more, List.countP_append]
      rfl
  · unfold closers
    rcases aside.stops with same | more
    · rw [aside.listener, same]
    · rw [aside.listener, more, List.countP_append]
      rfl

/-- What a move does to the closing of the feed. -/
theorem closing_of_step? (stepped : step? setup state move = some next) : Closing state next := by
  cases move with
  | listen =>
      cases stepped
      exact closing_listen setup state
  | stop call =>
      obtain ⟨phase, found, rfl⟩ := Option.map_eq_some_iff.mp stepped
      exact closing_stopStep found
  | _ => exact closing_of_aside (aside_of_step? stepped nofun nofun)

/-- The feed is marked exactly if some caller has gone on to close the stream. -/
def Tallied (state : State) : Prop :=
  state.feed.closed = true ↔ 1 ≤ closers state + state.feed.stream.closes

theorem tallied_of_step? (tallied : Tallied state) (stepped : step? setup state move = some next) :
    Tallied next := by
  unfold Tallied at tallied ⊢
  cases closing_of_step? stepped with
  | finds unmarked same markers closers closes => rw [same, closers, closes, ← tallied, unmarked]
  | marks marked markers closers closes =>
      rw [marked, closers, closes]
      exact iff_of_true rfl (by omega)
  | closes same markers closers closes =>
      rw [same, tallied, closes]
      omega
  | rests same markers closers closes => rw [same, closers, closes, tallied]

theorem finders_of_step? (stepped : step? setup state move = some next) :
    finders next = finders state ∨
      finders next = finders state + 1 ∧ state.feed.closed = false ∧ next.feed.closed = false := by
  unfold finders
  cases closing_of_step? stepped with
  | finds unmarked same markers closers closes => exact .inr ⟨by omega, unmarked, same⟩
  | marks marked markers closers closes => exact .inl (by omega)
  | closes same markers closers closes => exact .inl (by omega)
  | rests same markers closers closes => exact .inl (by omega)

/-- The callers that have found the feed open do not become fewer. -/
theorem finders_le_of_run (ran : run? setup first moves = some last) :
    finders first ≤ finders last := by
  refine run?_invariant (motive := fun state => finders first ≤ finders state) ?_ (Nat.le_refl _) ran
  intro state move next before stepped
  rcases finders_of_step? stepped with same | ⟨more, _⟩ <;> omega

/-- Somewhere in a run two callers have found the feed open, and neither has marked it. -/
def Overlaps (setup : Setup) (first : State) (moves : List Move) : Prop :=
  ∃ before after state, moves = before ++ after ∧ run? setup first before = some state ∧
    2 ≤ markers state

theorem Overlaps.snoc (overlaps : Overlaps setup first moves) :
    Overlaps setup first (moves ++ [move]) := by
  obtain ⟨before, after, state, rfl, ran, two⟩ := overlaps
  exact ⟨before, after ++ [move], state, by simp, ran, two⟩

/-- Callers that overlap have both found the feed open. -/
theorem two_le_finders_of_overlaps (overlaps : Overlaps setup first moves)
    (ran : run? setup first moves = some last) : 2 ≤ finders last := by
  obtain ⟨before, after, state, rfl, reached, two⟩ := overlaps
  rw [run?_append, reached, Option.bind_some] at ran
  have grown := finders_le_of_run ran
  have counted : markers state ≤ finders state := by
    unfold finders
    omega
  omega

section Opened

variable {options : Options} {client : Client} {watch : Watch}

theorem tallied_of_run (opened : (openWith options client).report.outcome = .ok watch)
    (ran : run? watch.setup watch.state moves = some state) : Tallied state := by
  refine invariant_of_opened opened ?_ (fun _ _ _ => tallied_of_step?) ran
  intro snapshot capacity
  exact iff_of_false nofun (by simp [closers, State.initial, Listener.isClosingStream, Client.stream,
    Stream.fresh, Feed.ofStream])

/-- Unless two callers overlap, one at most finds the feed open. -/
theorem finders_le_one_of_run (opened : (openWith options client).report.outcome = .ok watch)
    (ran : run? watch.setup watch.state moves = some state)
    (apart : ¬Overlaps watch.setup watch.state moves) : finders state ≤ 1 := by
  obtain ⟨_, snapshot, _, _, _, _, _, start⟩ := openWith_eq_ok opened
  refine run?_induction (motive := fun moves state =>
    ¬Overlaps watch.setup watch.state moves → finders state ≤ 1) ?_ ?_ ran apart
  · intro _
    simp [start, finders, markers, closers, State.initial, Listener.isMarking,
      Listener.isClosingStream, Client.stream, Stream.fresh, Feed.ofStream]
  · intro before state move next ran earlier stepped apart
    have reached : run? watch.setup watch.state (before ++ [move]) = some next :=
      run?_snoc.mpr ⟨state, ran, stepped⟩
    rcases finders_of_step? stepped with same | ⟨_, _, unmarked⟩
    · rw [same]
      exact earlier fun overlaps => apart overlaps.snoc
    · -- nobody has marked the feed, so all who have found it open are about to mark it
      have tallied := tallied_of_run opened reached
      have nobody : ¬1 ≤ closers next + next.feed.stream.closes := fun someone =>
        absurd (tallied.mpr someone) (by simp [unmarked])
      have alone : ¬2 ≤ markers next := fun two =>
        apart ⟨before ++ [move], [], next, by simp, reached, two⟩
      unfold finders
      omega

/-- Where neither the listener nor a stop call is in the middle of closing, the stream was closed by
    each caller that has found the feed open. -/
theorem closes_eq_finders (through : state.listener.isThrough = true)
    (undivided : Undivided state) : state.feed.stream.closes = finders state := by
  have listener : state.listener.isMarking = false ∧ state.listener.isClosingStream = false := by
    cases phase : state.listener <;> simp_all [Listener.isThrough, Listener.isMarking,
      Listener.isClosingStream]
  have marking : state.stops.countP (·.isMarking) = 0 := by
    rw [List.countP_eq_zero]
    intro call member
    have outside := undivided call member
    cases call <;> simp_all [StopCall.isMarking]
  have closing : state.stops.countP (·.isClosingStream) = 0 := by
    rw [List.countP_eq_zero]
    intro call member
    have outside := undivided call member
    cases call <;> simp_all [StopCall.isClosingStream]
  simp [finders, markers, closers, listener, marking, closing]

/-- How often the stream is closed.  Unless two callers overlap it is closed once at most, wherever a
    run has come to.  When the listener has exited after it had subscribed and no stop call is in the
    middle of closing, as is the case when all of them have ended, the stream was closed, and it was
    closed once exactly if no two callers have overlapped.  All this is so however closing ends. -/
theorem stream_closed_once_unless_overlapping
    (opened : (openWith options client).report.outcome = .ok watch)
    (ran : run? watch.setup watch.state moves = some state) :
    (¬Overlaps watch.setup watch.state moves → state.feed.stream.closes ≤ 1) ∧
    (client.subscribe = .ok () → state.listener = .exited → Undivided state →
      1 ≤ state.feed.stream.closes ∧
      (state.feed.stream.closes = 1 ↔ ¬Overlaps watch.setup watch.state moves)) := by
  have found : state.feed.stream.closes ≤ finders state := by
    unfold finders
    omega
  refine ⟨?_, ?_⟩
  · intro apart
    exact Nat.le_trans found (finders_le_one_of_run opened ran apart)
  · intro subscribed exited undivided
    have through : state.listener.isThrough = true := by rw [exited]; rfl
    have counted := closes_eq_finders through undivided
    have closed : 1 ≤ state.feed.stream.closes := by
      obtain ⟨_, _, _, _, _, subscription, _, _⟩ := openWith_eq_ok opened
      have marked := (arranged_of_run opened ran).through through (subscription.trans subscribed)
      have someone := (tallied_of_run opened ran).mp marked
      unfold finders at counted
      omega
    refine ⟨closed, ?_, ?_⟩
    · intro once overlaps
      have two := two_le_finders_of_overlaps overlaps ran
      omega
    · intro apart
      have one := finders_le_one_of_run opened ran apart
      omega

/-- A run in which a stop call closes the feed and the listener finds it closed. -/
def orderlyMoves : List Move :=
  .take :: List.replicate 9 .listen ++ .callStop :: List.replicate 5 (.stop 0)
    ++ List.replicate 4 .listen ++ [.stop 0]

/-- A run in which the feed comes to its end, and a stop call looks at the feed before the listener
    has marked it. -/
def overlappingMoves : List Move :=
  .take :: List.replicate 11 .listen ++ .callStop :: List.replicate 3 (.stop 0)
    ++ List.replicate 4 .listen ++ List.replicate 3 (.stop 0)

set_option maxRecDepth 4000 in
/-- Both the listener and the stop call have ended, and the stream was closed once: they have not
    overlapped. -/
theorem stream_closed_once_of_example :
    ∃ watch state, (openWith exampleOptions exampleClient).report.outcome = .ok watch ∧
      run? watch.setup watch.state orderlyMoves = some state ∧
      state.listener = .exited ∧ state.stops = [.returned true] ∧
      state.feed.stream.closes = 1 ∧ ¬Overlaps watch.setup watch.state orderlyMoves := by
  obtain ⟨watch, state, opened, ran, exited, returned, closes⟩ :
      ∃ watch state, (openWith exampleOptions exampleClient).report.outcome = .ok watch ∧
        run? watch.setup watch.state orderlyMoves = some state ∧
        state.listener = .exited ∧ state.stops = [.returned true] ∧
        state.feed.stream.closes = 1 :=
    ⟨_, _, rfl, rfl, rfl, rfl, rfl⟩
  have undivided : Undivided state := by simp [Undivided, returned]
  obtain ⟨_, closed⟩ := stream_closed_once_unless_overlapping opened ran
  exact ⟨watch, state, opened, ran, exited, returned, closes,
    (closed rfl exited undivided).2.mp closes⟩

set_option maxRecDepth 4000 in
/-- It is not so that the stream is closed once at most: here the listener and a stop call both find
    the feed open, and each of them closes the stream. -/
theorem stream_closed_twice :
    ∃ watch state, (openWith exampleOptions exampleClient).report.outcome = .ok watch ∧
      run? watch.setup watch.state overlappingMoves = some state ∧
      state.listener = .exited ∧ state.stops = [.returned true] ∧
      state.feed.stream.closes = 2 :=
  ⟨_, _, rfl, rfl, rfl, rfl, rfl⟩

end Opened

end ContainerWatch.Watcher
