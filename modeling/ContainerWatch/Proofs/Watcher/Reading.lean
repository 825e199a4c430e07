import ContainerWatch.Proofs.Watcher.Conservation

/-!
# How a reader ends

A reader ends on its own only when there is nothing left to read and nothing more will come: it has
found out that the listener failed or has exited before its last look at the channel, and a listener
that has come that far puts nothing on the channel any more.  A reader that is opened after the
listener failed comes to that failure in a bounded number of its steps.

What a reader knows of the failure is from before it asks whether the listener runs.  If the listener
both fails and exits in between, the reader ends as if there were no failure.
-/

namespace ContainerWatch.Watcher

open Engine Sighting

variable {setup : Setup} {first state next last : State} {move : Move} {moves : List Move}
  {failure : Fault}

/-! ## The listener has put its last notice -/

theorem isOver_of_recorded (lawful : Lawful setup state) (recorded : state.failure = some failure) :
    state.listener.isOver = true := by
  obtain ⟨_, ⟨reporting, _⟩ | ⟨leaving | exited, _⟩⟩ := recorded_of_lawful lawful recorded
  · rw [reporting]; rfl
  · rw [leaving]; rfl
  · rw [exited]; rfl

theorem isOver_of_step? (past : state.listener.isOver = true)
    (stepped : step? setup state move = some next) :
    putBy state move = [] ∧ next.listener.isOver = true := by
  by_cases own : move = .listen
  · subst own
    cases stepped
    obtain ⟨noPut, _, stays⟩ := listen_of_isOver setup past
    rw [listen_listener]
    exact ⟨noPut, stays⟩
  · refine ⟨putBy_of_ne own, ?_⟩
    rw [(beside_of_step? stepped own).listener, past]

/-- Once the listener reads no more, nothing is put on the channel any more. -/
theorem isOver_of_run (past : first.listener.isOver = true)
    (ran : run? setup first moves = some last) :
    history putBy setup first moves = [] ∧ last.listener.isOver = true := by
  refine run?_induction (motive := fun moves state =>
    history putBy setup first moves = [] ∧ state.listener.isOver = true) ⟨rfl, past⟩ ?_ ran
  rintro before state move next ran ⟨nothing, past⟩ stepped
  obtain ⟨noPut, stays⟩ := isOver_of_step? past stepped
  rw [history_snoc _ ran stepped, nothing, noPut]
  exact ⟨rfl, stays⟩

theorem channel_eq_nil_of_step? (past : state.listener.isOver = true) (empty : state.channel = [])
    (stepped : step? setup state move = some next) : next.channel = [] := by
  have balanced := channel_of_step? stepped
  rw [(isOver_of_step? past stepped).1, empty] at balanced
  exact (List.append_eq_nil_iff.mp balanced).2

/-! ## What a reader knows -/

/-- What a reader has found out is so: a failure that it saw is on record, a listener that it holds
    for finished without a failure has exited, and where it ended the channel was empty and is. -/
def Informed (state : State) : Prop :=
  match state.reader with
  | some (.sawFailure seen) => ∀ failure, seen = some failure → state.failure = some failure
  | some (.judged seen finished) =>
      (∀ failure, seen = some failure → state.failure = some failure) ∧
        (seen = none → finished = true → state.listener = .exited)
  | some .ended => state.listener = .exited ∧ state.channel = []
  | some (.raised failure) => state.failure = some failure ∧ state.channel = []
  | _ => True

theorem informed_readStep {phase : Reader} (found : state.reader = some phase)
    (informed : Informed state) : Informed (readStep phase state) := by
  cases phase with
  | polling =>
      simp only [readStep, poll]
      cases state.take? <;> trivial
  | yielded notice => trivial
  | timedOut => exact fun failure seen => seen
  | sawFailure seen =>
      simp only [Informed, found] at informed
      refine ⟨informed, ?_⟩
      rintro rfl finished
      have stopped : state.isRunning = false := by simpa using finished
      exact isRunning_eq_false_iff.mp stopped
  | judged seen finished =>
      simp only [Informed, found] at informed
      obtain ⟨known, exited⟩ := informed
      simp only [readStep]
      cases waiting : state.channel with
      | cons notice rest => trivial
      | nil =>
          cases seen with
          | some failure => exact ⟨known failure rfl, waiting⟩
          | none =>
              cases finished with
              | true => exact ⟨exited rfl rfl, waiting⟩
              | false => trivial
  | ended | raised failure => exact informed

theorem informed_of_reader (lawful : Lawful setup state) (informed : Informed state)
    (stepped : step? setup state move = some next) (same : next.reader = state.reader) :
    Informed next := by
  have kept : ∀ failure, state.failure = some failure → next.failure = some failure :=
    fun _ recorded => failure_of_step? lawful recorded stepped
  unfold Informed at informed ⊢
  rw [same]
  cases reading : state.reader with
  | none => trivial
  | some phase =>
      cases phase with
      | sawFailure seen =>
          simp only [reading] at informed
          exact fun failure seen => kept failure (informed failure seen)
      | judged seen finished =>
          simp only [reading] at informed
          exact ⟨fun failure seen => kept failure (informed.1 failure seen),
            fun unseen finished => exited_of_step? (informed.2 unseen finished) stepped⟩
      | ended =>
          simp only [reading] at informed
          have past : state.listener.isOver = true := by rw [informed.1]; rfl
          exact ⟨exited_of_step? informed.1 stepped,
            channel_eq_nil_of_step? past informed.2 stepped⟩
      | raised failure =>
          simp only [reading] at informed
          exact ⟨kept failure informed.1,
            channel_eq_nil_of_step? (isOver_of_recorded lawful informed.1) informed.2 stepped⟩
      | _ => trivial

theorem informed_of_step? (lawful : Lawful setup state) (informed : Informed state)
    (stepped : step? setup state move = some next) : Informed next := by
  cases move with
  | read =>
      obtain ⟨phase, found, rfl⟩ := Option.map_eq_some_iff.mp stepped
      exact informed_readStep found informed
  | openReader =>
      simp only [step?] at stepped
      split at stepped <;> cases stepped
      trivial
  | closeReader =>
      simp only [step?] at stepped
      split at stepped <;> cases stepped
      trivial
  | _ => exact informed_of_reader lawful informed stepped (reader_of_step? stepped rfl)

theorem informed_of_run {options : Options} {client : Client} {watch : Watch}
    (opened : (openWith options client).report.outcome = .ok watch)
    (ran : run? watch.setup watch.state moves = some state) : Informed state := by
  have kept : Lawful watch.setup state ∧ Informed state := by
    refine invariant_of_opened (motive := fun s => Lawful watch.setup s ∧ Informed s) opened
      (fun snapshot _ => ⟨lawful_initial _ snapshot _, trivial⟩) ?_ ran
    rintro state move next ⟨lawful, informed⟩ stepped
    exact ⟨lawful_of_step? lawful stepped, informed_of_step? lawful informed stepped⟩
  exact kept.2

theorem drained_of_isDone {phase : Reader} (lawful : Lawful setup state)
    (informed : Informed state) (found : state.reader = some phase) (done : phase.isDone = true) :
    state.channel = [] ∧ state.listener.isOver = true := by
  cases phase with
  | ended =>
      simp only [Informed, found] at informed
      exact ⟨informed.2, by rw [informed.1]; rfl⟩
  | raised failure =>
      simp only [Informed, found] at informed
      exact ⟨informed.2, isOver_of_recorded lawful informed.1⟩
  | _ => simp [Reader.isDone] at done

/-! ## Reading after a failure -/

/-- How far a reader that was opened after the failure has come: it still takes notices, or it found
    the channel empty and goes on to end in the failure. -/
def Draining (failure : Fault) (state : State) : Prop :=
  match state.reader with
  | some .polling | some (.yielded _) => True
  | some .timedOut => state.channel = []
  | some (.sawFailure seen) | some (.judged seen _) => seen = some failure ∧ state.channel = []
  | some (.raised raised) => raised = failure ∧ state.channel = []
  | _ => False

/-- The number of steps after which a reader has come to its end, if the listener has failed. -/
def effort (state : State) : Nat :=
  2 * state.channel.length +
    match state.reader with
    | some (.yielded _) => 5
    | some .polling => 4
    | some .timedOut => 3
    | some (.sawFailure _) => 2
    | some (.judged ..) => 1
    | _ => 0

/-- Whether a move is a step of the reader. -/
def Move.isRead : Move → Bool
  | read => true
  | _ => false

/-- A step of the reader takes it nearer to the failure. -/
theorem draining_readStep {phase : Reader} (found : state.reader = some phase)
    (recorded : state.failure = some failure) (draining : Draining failure state) :
    Draining failure (readStep phase state) ∧ effort (readStep phase state) ≤ effort state - 1 := by
  cases phase with
  | polling =>
      simp only [readStep, poll, State.take?]
      cases waiting : state.channel with
      | nil => simp [Draining, effort, State.readerAt, found, waiting]
      | cons notice rest =>
          simp only [Draining, effort, State.readerAt, found, waiting, List.length_cons, true_and]
          omega
  | yielded notice =>
      simp only [Draining, effort, readStep, State.readerAt, found, true_and]
      omega
  | timedOut =>
      simp only [Draining, found] at draining
      simp [Draining, effort, readStep, State.readerAt, found, recorded, draining]
  | sawFailure seen =>
      simp only [Draining, found] at draining
      simp [Draining, effort, readStep, State.readerAt, found, draining]
  | judged seen finished =>
      simp only [Draining, found] at draining
      obtain ⟨rfl, empty⟩ := draining
      simp [Draining, effort, readStep, State.readerAt, afterEmpty, found, empty]
  | ended => simp [Draining, found] at draining
  | raised other =>
      simp only [Draining, found] at draining
      simp [Draining, effort, readStep, found, draining]

/-- A move that leaves the reader alone, and only takes from the channel, takes it no further from
    the failure. -/
theorem draining_of_reader (draining : Draining failure state) (same : next.reader = state.reader)
    (fewer : next.channel.length ≤ state.channel.length) :
    Draining failure next ∧ effort next ≤ effort state := by
  have stays : state.channel = [] → next.channel = [] := by
    intro empty
    rw [empty] at fewer
    exact List.eq_nil_of_length_eq_zero (Nat.le_zero.mp fewer)
  refine ⟨?_, ?_⟩
  · unfold Draining at draining ⊢
    rw [same]
    cases reading : state.reader with
    | none => simp [reading] at draining
    | some phase =>
        cases phase with
        | polling | yielded notice => trivial
        | timedOut =>
            simp only [reading] at draining
            exact stays draining
        | sawFailure seen | judged seen finished | raised other =>
            simp only [reading] at draining
            exact ⟨draining.1, stays draining.2⟩
        | ended => simp [reading] at draining
  · unfold effort
    rw [same]
    omega

/-- Every move but the abandoning of the reader leaves it on its way to the failure, and nearer to it
    if it takes a step. -/
theorem draining_of_step? (past : state.listener.isOver = true)
    (recorded : state.failure = some failure) (draining : Draining failure state)
    (stays : move ≠ .openReader ∧ move ≠ .closeReader)
    (stepped : step? setup state move = some next) :
    Draining failure next ∧ effort next ≤ effort state - [move].countP Move.isRead := by
  have fewer : next.channel.length ≤ state.channel.length := by
    have lengths := congrArg List.length (channel_of_step? stepped)
    rw [(isOver_of_step? past stepped).1] at lengths
    simp only [List.length_append, List.length_nil] at lengths
    omega
  cases move with
  | read =>
      obtain ⟨phase, found, rfl⟩ := Option.map_eq_some_iff.mp stepped
      exact draining_readStep found recorded draining
  | openReader => exact absurd rfl stays.1
  | closeReader => exact absurd rfl stays.2
  | _ => exact draining_of_reader draining (reader_of_step? stepped rfl) fewer

/-- A reader that is left to itself after a failure comes nearer to it with each of its steps. -/
theorem draining_of_run (lawful : Lawful setup first) (recorded : first.failure = some failure)
    (draining : Draining failure first)
    (stays : ∀ move ∈ moves, move ≠ .openReader ∧ move ≠ .closeReader)
    (ran : run? setup first moves = some last) :
    Draining failure last ∧ effort last ≤ effort first - moves.countP Move.isRead := by
  induction moves generalizing first with
  | nil =>
      cases ran
      exact ⟨draining, Nat.le_refl _⟩
  | cons move moves ih =>
      obtain ⟨next, stepped, ran⟩ := run?_cons.mp ran
      obtain ⟨onWay, nearer⟩ := draining_of_step? (isOver_of_recorded lawful recorded) recorded
        draining (stays move List.mem_cons_self) stepped
      obtain ⟨there, bound⟩ := ih (lawful_of_step? lawful stepped)
        (failure_of_step? lawful recorded stepped) onWay
        (fun other member => stays other (List.mem_cons_of_mem move member)) ran
      refine ⟨there, ?_⟩
      rw [show move :: moves = [move] ++ moves from rfl, List.countP_append]
      omega

/-- A reader that has no step left to take ended in the failure, with an empty channel. -/
theorem raised_of_effort (draining : Draining failure state) (spent : effort state = 0) :
    state.reader = some (.raised failure) ∧ state.channel = [] := by
  unfold Draining at draining
  unfold effort at spent
  cases reading : state.reader with
  | none => simp [reading] at draining
  | some phase =>
      cases phase with
      | raised other =>
          simp only [reading] at draining
          exact ⟨by rw [draining.1], draining.2⟩
      | ended => simp [reading] at draining
      | _ => simp [reading] at spent

/-- A reader that is opened after a failure ends in that failure, after at most two steps for each
    notice on the channel and four more. -/
theorem raised_of_openReader (lawful : Lawful setup state) (recorded : state.failure = some failure)
    (reopened : step? setup state .openReader = some next)
    (stays : ∀ move ∈ moves, move ≠ .openReader ∧ move ≠ .closeReader)
    (enough : 2 * state.channel.length + 4 ≤ moves.countP Move.isRead)
    (ran : run? setup next moves = some last) :
    last.reader = some (.raised failure) ∧ last.channel = [] := by
  have lawful' := lawful_of_step? lawful reopened
  have recorded' := failure_of_step? lawful recorded reopened
  simp only [step?] at reopened
  split at reopened <;> cases reopened
  have start : effort (state.readerAt .polling) = 2 * state.channel.length + 4 := rfl
  obtain ⟨draining, bound⟩ := draining_of_run lawful' recorded' trivial stays ran
  exact raised_of_effort draining (by omega)

/-- A reader hands out a notice exactly if it takes that notice from the channel. -/
theorem yielded_iff_handedBy {notice : Notice} (stepped : step? setup state .read = some next) :
    next.reader = some (.yielded notice) ↔ handedBy state .read = [notice] := by
  obtain ⟨phase, found, rfl⟩ := Option.map_eq_some_iff.mp stepped
  cases phase with
  | polling =>
      simp only [handedBy, found, readStep, poll, State.take?]
      cases state.channel <;> simp [State.readerAt]
  | judged seen finished =>
      simp only [handedBy, found, readStep, State.readerAt]
      cases state.channel <;> cases seen <;> cases finished <;> simp [afterEmpty]
  | _ => simp [handedBy, found, readStep, State.readerAt]

/-- A reader drains the channel before it ends.  What the readers have taken and what is still on the
    channel are the notices of the containers that were listed and those that the listener has put
    there, and a reader hands out the notices that it takes.  Where a reader has ended on its own,
    normally or in a failure, the channel is empty and nothing is put on it whatever happens, so the
    readers have taken all that there ever was.  And a reader that is opened after the listener failed
    ends in that same failure, and leaves nothing behind, once it was given enough steps, whoever else
    takes notices meanwhile. -/
theorem reader_drains_channel {options : Options} {client : Client} {watch : Watch}
    (opened : (openWith options client).report.outcome = .ok watch)
    (ran : run? watch.setup watch.state moves = some state) :
    ∃ containers snapshot, client.list = .ok containers ∧
      ListingTells watch.setup.filter containers snapshot ∧
      state.taken ++ state.channel = snapshot ++ history putBy watch.setup watch.state moves ∧
      (∀ next notice, step? watch.setup state .read = some next →
        (next.reader = some (.yielded notice) ↔ handedBy state .read = [notice])) ∧
      (∀ phase, state.reader = some phase → phase.isDone = true →
        state.channel = [] ∧
        state.taken = snapshot ++ history putBy watch.setup watch.state moves ∧
        ∀ later last, run? watch.setup state later = some last →
          history putBy watch.setup state later = [] ∧ last.channel = [] ∧
            last.taken = state.taken) ∧
      ∀ failure next later last, state.failure = some failure →
        step? watch.setup state .openReader = some next →
        (∀ move ∈ later, move ≠ .openReader ∧ move ≠ .closeReader) →
        2 * state.channel.length + 4 ≤ later.countP Move.isRead →
        run? watch.setup next later = some last →
          last.reader = some (.raised failure) ∧ last.channel = [] ∧
            last.taken = state.taken ++ state.channel := by
  have lawful := lawful_of_run opened ran
  have informed := informed_of_run opened ran
  obtain ⟨containers, snapshot, _, listed, tells, _, _, start⟩ := openWith_eq_ok opened
  have balanced : state.taken ++ state.channel
      = snapshot ++ history putBy watch.setup watch.state moves := by
    rw [balanced_of_run ran, start]
    rfl
  refine ⟨containers, snapshot, listed, tells, balanced, fun _ _ => yielded_iff_handedBy, ?_, ?_⟩
  · intro phase found done
    obtain ⟨empty, past⟩ := drained_of_isDone lawful informed found done
    rw [empty, List.append_nil] at balanced
    refine ⟨empty, balanced, ?_⟩
    intro later last ran
    have nothing := (isOver_of_run past ran).1
    have rest := channel_of_run ran
    rw [nothing, empty, List.append_nil, List.append_eq_nil_iff] at rest
    refine ⟨nothing, rest.2, ?_⟩
    rw [taken_of_run ran, rest.1, List.append_nil]
  · intro failure next later last recorded reopened stays enough ran
    obtain ⟨raised, empty⟩ := raised_of_openReader lawful recorded reopened stays enough ran
    refine ⟨raised, empty, ?_⟩
    have whole := run?_cons.mpr ⟨next, reopened, ran⟩
    have total := balanced_of_run whole
    rwa [(isOver_of_run (isOver_of_recorded lawful recorded) whole).1, empty, List.append_nil,
      List.append_nil] at total

set_option maxRecDepth 4000 in
/-- The feed has ended and a notice is left: a reader takes it and then ends in the failure. -/
theorem reader_drains_channel_of_example :
    ∃ watch state next last failure,
      (openWith exampleOptions exampleClient).report.outcome = .ok watch ∧
      run? watch.setup watch.state (.take :: List.replicate 18 .listen) = some state ∧
      state.failure = some failure ∧ state.channel.length = 1 ∧
      step? watch.setup state .openReader = some next ∧
      run? watch.setup next (List.replicate 6 .read) = some last ∧
      last.reader = some (.raised failure) ∧ last.channel = [] ∧
      last.taken = state.taken ++ state.channel := by
  obtain ⟨watch, state, next, last, failure, opened, ran, recorded, waiting, reopened, read⟩ :
      ∃ watch state next last failure,
        (openWith exampleOptions exampleClient).report.outcome = .ok watch ∧
        run? watch.setup watch.state (.take :: List.replicate 18 .listen) = some state ∧
        state.failure = some failure ∧ state.channel.length = 1 ∧
        step? watch.setup state .openReader = some next ∧
        run? watch.setup next (List.replicate 6 .read) = some last :=
    ⟨_, _, _, _, _, rfl, rfl, rfl, rfl, rfl, rfl⟩
  obtain ⟨_, _, _, _, _, _, _, drains⟩ := reader_drains_channel opened ran
  refine ⟨watch, state, next, last, failure, opened, ran, recorded, waiting, reopened, read, ?_⟩
  refine drains failure next _ last recorded reopened ?_ ?_ read
  · intro move member
    rw [List.eq_of_mem_replicate member]
    exact ⟨nofun, nofun⟩
  · rw [waiting]
    decide

end ContainerWatch.Watcher
