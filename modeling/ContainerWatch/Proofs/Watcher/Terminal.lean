import ContainerWatch.Proofs.Watcher.Moves
import ContainerWatch.Proofs.Watcher.Runs

/-!
# How a listener ends

A listener subscribes at most once, and it ends in one of two ways: a stop was requested, and nothing
is on record, or it has failed, and the one failure is on record for good and the owner is told of it
once.  Which of the two it is to be is decided when the listener looks a last time whether it should
stop.
-/

namespace ContainerWatch.Watcher

open Engine

/-- Whether the listener has not looked a last time whether it should stop. -/
def Listener.isUndecided : Listener → Bool
  | recording .. | reporting _ | leaving | exited => false
  | _ => true

/-- Whether the listener has decided that it failed, and is not done with its failure. -/
def Listener.isFailing : Listener → Bool
  | recording .. | reporting _ => true
  | _ => false

/-- No failure is on record, and the owner was told of none. -/
def Silent (state : State) : Prop := state.failure = none ∧ state.reported = []

/-- A failure is on record, and the owner was told of it if there is a callback. -/
def Failed (setup : Setup) (state : State) : Prop :=
  ∃ reason cause, state.failure = some (.listening (.text reason) cause) ∧
    state.reported = setup.callback.told (.listening (.text reason) cause)

/-- What is on record in each phase of the listener: nothing until it records its failure, and once
    it leaves either its failure or nothing, the latter only if a stop was requested. -/
def Lawful (setup : Setup) (state : State) : Prop :=
  match state.listener with
  | .starting => state.subscriptions = 0 ∧ Silent state
  | .reporting failure =>
      state.subscriptions = 1 ∧ state.failure = some failure ∧ state.reported = [] ∧
        ∃ reason cause, failure = .listening (.text reason) cause
  | .leaving | .exited =>
      state.subscriptions = 1 ∧ (state.stopRequested = true ∧ Silent state ∨ Failed setup state)
  | _ => state.subscriptions = 1 ∧ Silent state

variable {setup : Setup} {state next last : State} {move : Move} {moves : List Move}

theorem lawful_initial (stream : Stream) (snapshot : List Notice) (capacity : Nat) :
    Lawful setup (.initial stream snapshot capacity) := ⟨rfl, rfl, rfl⟩

theorem nextPhase_ne_starting : nextPhase setup state ≠ .starting := by
  unfold nextPhase
  cases state.listener <;> (repeat' split) <;> nofun

/-- Only the last look whether it should stop decides how the listener ends. -/
theorem nextPhase_isUndecided (undecided : state.listener.isUndecided = true)
    (before : ∀ ending, state.listener ≠ .finishing ending) :
    (nextPhase setup state).isUndecided = true := by
  cases phase : state.listener with
  | finishing ending => exact absurd phase (before ending)
  | recording reason cause => simp [phase, Listener.isUndecided] at undecided
  | reporting failure => simp [phase, Listener.isUndecided] at undecided
  | leaving => simp [phase, Listener.isUndecided] at undecided
  | exited => simp [phase, Listener.isUndecided] at undecided
  | _ =>
      simp only [nextPhase, phase]
      (repeat' split) <;> rfl

/-- A listener that has called for its subscription and not yet decided how it ends has nothing on
    record. -/
theorem lawful_iff_of_isUndecided (undecided : state.listener.isUndecided = true)
    (started : state.listener ≠ .starting) :
    Lawful setup state ↔ state.subscriptions = 1 ∧ Silent state := by
  unfold Lawful
  cases phase : state.listener <;> simp_all [Listener.isUndecided]

theorem lawful_listen (lawful : Lawful setup state) : Lawful setup (listen setup state) := by
  cases phase : state.listener with
  | starting =>
      simp only [Lawful, phase, Silent] at lawful
      simp [Lawful, Silent, nextPhase, phase, failureAfter, toldBy, callsBy, lawful]
  | finishing ending =>
      simp only [Lawful, phase, Silent] at lawful
      obtain ⟨once, unrecorded, untold⟩ := lawful
      cases stopping : state.stopRequested <;> cases ending <;>
        simp [Lawful, Silent, nextPhase, phase, failureAfter, toldBy, callsBy, once, unrecorded,
          untold, stopping]
  | recording reason cause =>
      simp only [Lawful, phase, Silent] at lawful
      simp only [Lawful, listen_listener, nextPhase, phase]
      refine ⟨?_, ?_, ?_, reason, cause, rfl⟩ <;>
        simp [phase, failureAfter, toldBy, callsBy, lawful]
  | reporting failure =>
      simp only [Lawful, phase] at lawful
      obtain ⟨once, recorded, untold, reason, cause, rfl⟩ := lawful
      simp only [Lawful, listen_listener, nextPhase, phase]
      refine ⟨?_, .inr ⟨reason, cause, ?_, ?_⟩⟩ <;>
        simp [phase, failureAfter, toldBy, callsBy, once, recorded, untold]
  | leaving | exited =>
      simp only [Lawful, phase, Silent, Failed] at lawful
      simpa [Lawful, Silent, Failed, nextPhase, phase, failureAfter, toldBy, callsBy] using lawful
  | _ =>
      have undecided : state.listener.isUndecided = true := by simp [phase, Listener.isUndecided]
      have later : (listen setup state).listener.isUndecided = true := by
        rw [listen_listener]
        exact nextPhase_isUndecided undecided (by simp [phase])
      have started : (listen setup state).listener ≠ .starting := by
        rw [listen_listener]
        exact nextPhase_ne_starting
      rw [lawful_iff_of_isUndecided undecided (by simp [phase])] at lawful
      rw [lawful_iff_of_isUndecided later started]
      simpa [Silent, failureAfter, toldBy, callsBy, phase] using lawful

theorem lawful_of_beside (beside : Beside move state next)
    (lawful : Lawful setup state) : Lawful setup next := by
  unfold Lawful Silent Failed at lawful ⊢
  rw [beside.listener, beside.failure, beside.reported, beside.subscriptions]
  cases phase : state.listener with
  | leaving | exited =>
      simp only [phase] at lawful
      refine ⟨lawful.1, lawful.2.imp ?_ id⟩
      exact fun stopped => ⟨beside.stopRequested stopped.1, stopped.2⟩
  | _ => simpa only [phase] using lawful

theorem lawful_of_step? (lawful : Lawful setup state)
    (stepped : step? setup state move = some next) : Lawful setup next := by
  by_cases own : move = .listen
  · subst own
    cases stepped
    exact lawful_listen lawful
  · exact lawful_of_beside (beside_of_step? stepped own) lawful

/-- The record of an opened watcher is lawful wherever its run has come to. -/
theorem lawful_of_run {options : Options} {client : Client} {watch : Watch}
    (opened : (openWith options client).report.outcome = .ok watch)
    (ran : run? watch.setup watch.state moves = some state) : Lawful watch.setup state := by
  refine invariant_of_opened opened (fun snapshot _ => lawful_initial _ snapshot _) ?_ ran
  exact fun state move next lawful stepped => lawful_of_step? lawful stepped

theorem isRunning_eq_false_iff : state.isRunning = false ↔ state.listener = .exited := by
  unfold State.isRunning
  cases state.listener <;> simp [Listener.isRunning]

/-! ## What stays -/

theorem failure_of_step? {failure : Fault} (lawful : Lawful setup state)
    (recorded : state.failure = some failure) (stepped : step? setup state move = some next) :
    next.failure = some failure := by
  by_cases own : move = .listen
  · subst own
    cases stepped
    rw [listen_failure, failureAfter]
    cases phase : state.listener with
    | recording reason cause =>
        -- a failure is recorded where none is on record
        simp [Lawful, phase, Silent, recorded] at lawful
    | _ => exact recorded
  · rw [(beside_of_step? stepped own).failure, recorded]

theorem failure_of_run {failure : Fault} (lawful : Lawful setup state)
    (recorded : state.failure = some failure) (ran : run? setup state moves = some last) :
    last.failure = some failure := by
  have kept : Lawful setup last ∧ last.failure = some failure := by
    refine run?_invariant (motive := fun s => Lawful setup s ∧ s.failure = some failure) ?_
      ⟨lawful, recorded⟩ ran
    rintro state move next ⟨lawful, recorded⟩ stepped
    exact ⟨lawful_of_step? lawful stepped, failure_of_step? lawful recorded stepped⟩
  exact kept.2

theorem exited_of_step? (exited : state.listener = .exited)
    (stepped : step? setup state move = some next) : next.listener = .exited := by
  by_cases own : move = .listen
  · subst own
    cases stepped
    simp [nextPhase, exited]
  · rw [(beside_of_step? stepped own).listener, exited]

theorem failure_eq_of_exited (exited : state.listener = .exited)
    (stepped : step? setup state move = some next) : next.failure = state.failure := by
  by_cases own : move = .listen
  · subst own
    cases stepped
    simp [failureAfter, exited]
  · exact (beside_of_step? stepped own).failure

theorem exited_of_run (exited : state.listener = .exited)
    (ran : run? setup state moves = some last) : last.listener = .exited :=
  run?_invariant (motive := fun s => s.listener = .exited)
    (fun _ _ _ exited stepped => exited_of_step? exited stepped) exited ran

/-- The listener heeds a stop: it was requested, nothing is on record, and the listener has not
    decided that it failed. -/
def Heeded (state : State) : Prop :=
  state.stopRequested = true ∧ Silent state ∧ state.listener.isFailing = false

/-- A listener that is to stop does not decide that it failed. -/
theorem nextPhase_isFailing (requested : state.stopRequested = true)
    (sound : state.listener.isFailing = false) : (nextPhase setup state).isFailing = false := by
  cases phase : state.listener with
  | recording reason cause => simp [phase, Listener.isFailing] at sound
  | reporting failure => simp [phase, Listener.isFailing] at sound
  | finishing ending => simp [nextPhase, phase, requested, Listener.isFailing]
  | _ =>
      simp only [nextPhase, phase]
      (repeat' split) <;> rfl

theorem heeded_of_step? (heeded : Heeded state) (stepped : step? setup state move = some next) :
    Heeded next := by
  obtain ⟨requested, ⟨unrecorded, untold⟩, sound⟩ := heeded
  by_cases own : move = .listen
  · subst own
    cases stepped
    refine ⟨by simpa using requested, ⟨?_, ?_⟩, ?_⟩
    · cases phase : state.listener <;> simp_all [failureAfter, Listener.isFailing]
    · cases phase : state.listener <;> simp_all [toldBy, Listener.isFailing]
    · rw [listen_listener]
      exact nextPhase_isFailing requested sound
  · have beside := beside_of_step? stepped own
    refine ⟨beside.stopRequested requested, ⟨?_, ?_⟩, ?_⟩
    · rw [beside.failure, unrecorded]
    · rw [beside.reported, untold]
    · rw [beside.listener, sound]

/-- A stop that is requested before the listener looks a last time is heeded. -/
theorem heeded_of_isUndecided (lawful : Lawful setup state) (requested : state.stopRequested = true)
    (undecided : state.listener.isUndecided = true) : Heeded state := by
  unfold Lawful at lawful
  cases phase : state.listener <;>
    simp_all [Heeded, Listener.isUndecided, Listener.isFailing]

/-- A stop that is not called for is not requested. -/
theorem unrequested_of_run {options : Options} {client : Client} {watch : Watch}
    (opened : (openWith options client).report.outcome = .ok watch)
    (ran : run? watch.setup watch.state moves = some state) (uncalled : state.stops = []) :
    state.stopRequested = false := by
  refine invariant_of_opened (motive := fun s => s.stops = [] → s.stopRequested = false) opened
    (fun _ _ _ => rfl) ?_ ran uncalled
  intro state move next quiet stepped uncalled
  by_cases own : move = .listen
  · subst own
    cases stepped
    simpa using quiet (by simpa using uncalled)
  · obtain ⟨earlier, same⟩ := (beside_of_step? stepped own).unasked uncalled
    rw [same, quiet earlier]

/-! ## The law -/

/-- A failure on record is one of listening.  Until the owner is told of it the listener is about to
    do so, and the owner is told of that failure once and of no other. -/
theorem recorded_of_lawful {failure : Fault} (lawful : Lawful setup state)
    (recorded : state.failure = some failure) :
    (∃ reason cause, failure = .listening (.text reason) cause) ∧
      (state.listener = .reporting failure ∧ state.reported = [] ∨
        (state.listener = .leaving ∨ state.listener = .exited) ∧
          state.reported = setup.callback.told failure) := by
  cases phase : state.listener with
  | reporting told =>
      simp only [Lawful, phase, recorded, Option.some.injEq] at lawful
      obtain ⟨_, rfl, untold, shape⟩ := lawful
      exact ⟨shape, .inl ⟨rfl, untold⟩⟩
  | leaving | exited =>
      simp only [Lawful, phase, Silent, Failed, recorded, Option.some.injEq, reduceCtorEq, false_and,
        and_false, false_or] at lawful
      obtain ⟨_, reason, cause, rfl, told⟩ := lawful
      exact ⟨⟨reason, cause, rfl⟩, .inr ⟨by simp, told⟩⟩
  | _ => simp [Lawful, phase, Silent, recorded] at lawful

/-- Without a failure on record the owner was told of none, and a listener that has exited was to
    stop. -/
theorem unrecorded_of_lawful (lawful : Lawful setup state) (unrecorded : state.failure = none) :
    state.reported = [] ∧ (state.listener = .exited → state.stopRequested = true) := by
  unfold Lawful at lawful
  cases phase : state.listener <;> simp_all [Silent, Failed]

theorem subscriptions_of_lawful (lawful : Lawful setup state) : state.subscriptions ≤ 1 := by
  unfold Lawful at lawful
  cases phase : state.listener <;> simp_all

/-- How a listener ends, wherever its run has come to.  A subscription was called for at most once.
    A failure on record is one of listening and stays on record, whatever happens; until then the
    owner was told of none, and thereafter the owner is told of it once, if there is a callback.  A
    stop that is requested before the listener looks a last time leaves no failure on record for
    good.  A listener that has exited without a request to stop has failed, and one that has exited
    does not run again. -/
theorem listener_stops_or_fails_once {options : Options} {client : Client} {watch : Watch}
    {moves : List Move} {state : State}
    (opened : (openWith options client).report.outcome = .ok watch)
    (ran : run? watch.setup watch.state moves = some state) :
    state.subscriptions ≤ 1 ∧
    (state.failure = none → state.reported = []) ∧
    (∀ failure, state.failure = some failure →
      (∃ reason cause, failure = .listening (.text reason) cause) ∧
      (state.listener = .reporting failure ∧ state.reported = [] ∨
        (state.listener = .leaving ∨ state.listener = .exited) ∧
          state.reported = options.callback.told failure) ∧
      ∀ later last, run? watch.setup state later = some last → last.failure = some failure) ∧
    (state.stopRequested = true → state.listener.isUndecided = true →
      ∀ later last, run? watch.setup state later = some last →
        last.failure = none ∧ last.reported = []) ∧
    (state.listener = .exited → state.stops = [] ∨ state.stopRequested = false →
      state.failure.isSome = true) ∧
    (state.isRunning = false →
      ∀ later last, run? watch.setup state later = some last → last.isRunning = false) := by
  have lawful := lawful_of_run opened ran
  obtain ⟨_, _, _, _, _, _, callback, _⟩ := openWith_eq_ok opened
  refine ⟨subscriptions_of_lawful lawful, ?_, ?_, ?_, ?_, ?_⟩
  · exact fun unrecorded => (unrecorded_of_lawful lawful unrecorded).1
  · intro failure recorded
    obtain ⟨shape, told⟩ := recorded_of_lawful lawful recorded
    rw [callback] at told
    exact ⟨shape, told, fun later last ran => failure_of_run lawful recorded ran⟩
  · intro requested undecided later last ran
    have heeded : Heeded last := run?_invariant (fun _ _ _ => heeded_of_step?)
      (heeded_of_isUndecided lawful requested undecided) ran
    exact heeded.2.1
  · intro exited unasked
    have unrequested : state.stopRequested = false :=
      unasked.elim (unrequested_of_run opened ran) id
    cases recorded : state.failure with
    | some failure => rfl
    | none =>
        have requested := (unrecorded_of_lawful lawful recorded).2 exited
        simp [unrequested] at requested
  · intro stopped later last ran
    exact isRunning_eq_false_iff.mpr (exited_of_run (isRunning_eq_false_iff.mp stopped) ran)

set_option maxRecDepth 4000 in
/-- The owner is told once that the feed has ended, and that stays on record. -/
theorem listener_fails_once_of_example :
    ∃ watch state failure, (openWith exampleOptions exampleClient).report.outcome = .ok watch ∧
      run? watch.setup watch.state (.take :: List.replicate 18 .listen) = some state ∧
      failure = .listening (.text terminatedReason) none ∧ state.failure = some failure ∧
      state.subscriptions = 1 ∧ state.reported = [failure] ∧
      ∀ later last, run? watch.setup state later = some last → last.failure = some failure := by
  obtain ⟨watch, state, failure, opened, ran, reason, recorded, subscribed, told⟩ :
      ∃ watch state failure, (openWith exampleOptions exampleClient).report.outcome = .ok watch ∧
        run? watch.setup watch.state (.take :: List.replicate 18 .listen) = some state ∧
        failure = .listening (.text terminatedReason) none ∧ state.failure = some failure ∧
        state.subscriptions = 1 ∧ state.reported = [failure] :=
    ⟨_, _, _, rfl, rfl, rfl, rfl, rfl, rfl⟩
  obtain ⟨_, _, stays, _⟩ := listener_stops_or_fails_once opened ran
  exact ⟨watch, state, failure, opened, ran, reason, recorded, subscribed, told,
    (stays failure recorded).2.2⟩

end ContainerWatch.Watcher
