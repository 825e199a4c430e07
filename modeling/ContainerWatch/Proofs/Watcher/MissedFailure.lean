import ContainerWatch.Proofs.Watcher.Reading

/-!
# How a failure is missed

A reader looks for a failure first and asks only then whether the listener runs.  A listener that both
records its failure and exits in between has exited as far as the reader can see, and has not failed.
That is the only way in which a reader ends normally although there is a failure.
-/

namespace ContainerWatch.Watcher

open Engine

/-- The reader has looked for a failure when there was none, and goes to ask whether the listener
    runs, which has failed and exited meanwhile. -/
def Missed (state : State) : Prop :=
  state.reader = some (.sawFailure none) ∧ state.failure.isSome = true ∧ state.listener = .exited

/-- In a run, a reader asks whether the listener runs where it has missed the failure. -/
def MissesFailure (setup : Setup) (first : State) (moves : List Move) : Prop :=
  ∃ before after state, moves = before ++ .read :: after ∧
    run? setup first before = some state ∧ Missed state

/-- The reader holds the listener for stopped: it has ended, or it will if the channel is empty. -/
def HoldsStopped (state : State) : Prop :=
  state.reader = some (.judged none true) ∨ state.reader = some .ended

variable {setup : Setup} {first state next last : State} {move : Move} {moves : List Move}

theorem MissesFailure.snoc (misses : MissesFailure setup first moves) :
    MissesFailure setup first (moves ++ [move]) := by
  obtain ⟨before, after, state, rfl, ran, missed⟩ := misses
  exact ⟨before, after ++ [move], state, by simp, ran, missed⟩

/-- A reader comes to hold the listener for stopped when it asks whether the listener runs; where
    there is a failure it has missed it. -/
theorem missed_of_readStep {phase : Reader} (found : state.reader = some phase)
    (recorded : state.failure.isSome = true) (later : HoldsStopped (readStep phase state)) :
    HoldsStopped state ∨ Missed state := by
  unfold HoldsStopped at later
  cases phase with
  | polling =>
      simp only [readStep, poll] at later
      cases taken : state.take? <;> simp [taken, State.readerAt] at later
  | yielded notice | timedOut | raised failure =>
      simp [readStep, State.readerAt, found] at later
  | sawFailure seen =>
      simp only [readStep, State.readerAt, Option.some.injEq, Reader.judged.injEq, reduceCtorEq,
        or_false] at later
      obtain ⟨rfl, finished⟩ := later
      have stopped : state.isRunning = false := by simpa using finished
      exact .inr ⟨found, recorded, isRunning_eq_false_iff.mp stopped⟩
  | judged seen finished =>
      simp only [readStep, State.readerAt] at later
      cases seen <;> cases finished <;> cases waiting : state.channel <;>
        simp_all [afterEmpty, HoldsStopped]
  | ended => exact .inl (.inr found)

/-- A listener that a reader holds for stopped has exited. -/
theorem exited_of_holdsStopped (informed : Informed state) (stopped : HoldsStopped state) :
    state.listener = .exited := by
  unfold Informed at informed
  rcases stopped with judged | ended
  · rw [judged] at informed
    exact informed.2 rfl rfl
  · rw [ended] at informed
    exact informed.1

/-- Where a reader that holds the listener for stopped meets a failure on record, it has missed that
    failure in its run. -/
theorem missesFailure_of_holdsStopped {options : Options} {client : Client} {watch : Watch}
    (opened : (openWith options client).report.outcome = .ok watch)
    (ran : run? watch.setup watch.state moves = some last) (recorded : last.failure.isSome = true)
    (stopped : HoldsStopped last) : MissesFailure watch.setup watch.state moves := by
  have start : ¬HoldsStopped watch.state := by
    obtain ⟨_, snapshot, _, _, _, _, _, start⟩ := openWith_eq_ok opened
    simp [start, HoldsStopped, State.initial]
  refine run?_induction (motive := fun moves state =>
    state.failure.isSome = true → HoldsStopped state →
      MissesFailure watch.setup watch.state moves) (fun _ stopped => absurd stopped start) ?_ ran
    recorded stopped
  intro first state move next ran misses stepped recorded stopped
  have informed := informed_of_run opened ran
  cases move with
  | read =>
      obtain ⟨phase, found, rfl⟩ := Option.map_eq_some_iff.mp stepped
      rw [(beside_readStep found).failure] at recorded
      rcases missed_of_readStep found recorded stopped with stopped | missed
      · exact (misses recorded stopped).snoc
      · exact ⟨first, [], state, rfl, ran, missed⟩
  | openReader =>
      simp only [step?] at stepped
      split at stepped <;> cases stepped
      simp [HoldsStopped, State.readerAt] at stopped
  | closeReader =>
      simp only [step?] at stepped
      split at stepped <;> cases stepped
      simp [HoldsStopped] at stopped
  | _ =>
      have stopped : HoldsStopped state := by
        rw [HoldsStopped, reader_of_step? stepped rfl] at stopped
        exact stopped
      rw [failure_eq_of_exited (exited_of_holdsStopped informed stopped) stepped] at recorded
      exact (misses recorded stopped).snoc

/-- A failure that was missed is on record. -/
theorem recorded_of_missesFailure {options : Options} {client : Client} {watch : Watch}
    (opened : (openWith options client).report.outcome = .ok watch)
    (ran : run? watch.setup watch.state moves = some last)
    (misses : MissesFailure watch.setup watch.state moves) : last.failure.isSome = true := by
  obtain ⟨before, after, state, rfl, reached, _, recorded, _⟩ := misses
  obtain ⟨failure, recorded⟩ := Option.isSome_iff_exists.mp recorded
  rw [run?_append, reached, Option.bind_some] at ran
  rw [failure_of_run (lawful_of_run opened reached) recorded ran]
  rfl

/-- A reader that has missed the failure ends normally, if nothing is left on the channel. -/
theorem ended_of_missed (missed : Missed state) (empty : state.channel = []) :
    ∃ last, run? setup state [.read, .read] = some last ∧ last.reader = some .ended ∧
      last.failure = state.failure := by
  obtain ⟨saw, _, exited⟩ := missed
  refine ⟨(state.readerAt (.judged none true)).readerAt .ended, ?_, rfl, rfl⟩
  have stopped := isRunning_eq_false_iff.mpr exited
  simp [run?, step?, saw, readStep, stopped, State.readerAt, empty, afterEmpty]

/-- A run in which the feed comes to its end after the reader has looked for a failure and before it
    asks whether the listener runs. -/
def missingMoves : List Move :=
  [.openReader, .read] ++ List.replicate 9 .listen ++ List.replicate 5 .read
    ++ List.replicate 8 .listen ++ [.read, .read]

/-- How a reader ends, wherever a run has come to.  If it ends in a failure, that is the one on
    record.  If it ends normally the listener has exited; then there is no failure on record exactly
    if the reader has not missed it, and in that case a stop was requested.  A reader that has missed
    the failure goes on to end normally, unless there is something left on the channel. -/
theorem reader_ends_in_failure_unless_missed {options : Options} {client : Client} {watch : Watch}
    (opened : (openWith options client).report.outcome = .ok watch)
    (ran : run? watch.setup watch.state moves = some state) :
    (∀ failure, state.reader = some (.raised failure) → state.failure = some failure) ∧
    (state.reader = some .ended →
      state.listener = .exited ∧
      (state.failure = none ↔ ¬MissesFailure watch.setup watch.state moves) ∧
      (state.failure = none → state.stopRequested = true)) ∧
    (Missed state → state.channel = [] →
      ∃ last, run? watch.setup state [.read, .read] = some last ∧ last.reader = some .ended ∧
        last.failure = state.failure) := by
  have lawful := lawful_of_run opened ran
  have informed := informed_of_run opened ran
  refine ⟨?_, ?_, fun missed empty => ended_of_missed missed empty⟩
  · intro failure raised
    simp only [Informed, raised] at informed
    exact informed.1
  · intro ended
    simp only [Informed, ended] at informed
    refine ⟨informed.1, ⟨?_, ?_⟩, ?_⟩
    · intro unrecorded misses
      have recorded := recorded_of_missesFailure opened ran misses
      simp [unrecorded] at recorded
    · intro heeds
      by_contra recorded
      have recorded : state.failure.isSome = true := Option.isSome_iff_ne_none.mpr recorded
      exact heeds (missesFailure_of_holdsStopped opened ran recorded (.inr ended))
    · exact fun unrecorded => (unrecorded_of_lawful lawful unrecorded).2 informed.1

set_option maxRecDepth 4000 in
/-- The reader of the example has read all notices, and ends normally because it missed the
    failure. -/
theorem missesFailure_of_example :
    ∃ watch state, (openWith exampleOptions exampleClient).report.outcome = .ok watch ∧
      run? watch.setup watch.state missingMoves = some state ∧
      state.reader = some .ended ∧ state.taken.length = 2 ∧
      MissesFailure watch.setup watch.state missingMoves := by
  obtain ⟨watch, state, opened, ran, ended, taken, recorded⟩ :
      ∃ watch state, (openWith exampleOptions exampleClient).report.outcome = .ok watch ∧
        run? watch.setup watch.state missingMoves = some state ∧
        state.reader = some .ended ∧ state.taken.length = 2 ∧ state.failure ≠ none :=
    ⟨_, _, rfl, rfl, rfl, rfl, nofun⟩
  obtain ⟨_, ends, _⟩ := reader_ends_in_failure_unless_missed opened ran
  refine ⟨watch, state, opened, ran, ended, taken, ?_⟩
  by_contra heeds
  exact recorded ((ends ended).2.1.mpr heeds)

set_option maxRecDepth 4000 in
/-- It is not so that a reader ends normally only where no failure is on record: here nobody asked the
    listener to stop, its feed came to the end, and the reader ends as if nothing had happened. -/
theorem reader_ends_normally_after_failure :
    ∃ watch state, (openWith exampleOptions exampleClient).report.outcome = .ok watch ∧
      run? watch.setup watch.state missingMoves = some state ∧
      state.stops = [] ∧ state.stopRequested = false ∧ state.reader = some .ended ∧
      state.failure = some (.listening (.text terminatedReason) none) :=
  ⟨_, _, rfl, rfl, rfl, rfl, rfl, rfl⟩

end ContainerWatch.Watcher
