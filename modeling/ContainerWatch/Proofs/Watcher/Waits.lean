import ContainerWatch.Proofs.Watcher.Shadows

/-!
# Stop calls with any wait

What holds of the stop calls of a run whoever makes them and however long they wait.  A wait goes wrong
if it is too long for a clock or if the listener makes it for its own exit.  The call then ends in the
fault of its wait.  After one of the first kind the listener may count as exited while it goes on, and
that is what later calls tell.  All else is as with waits that end well.
-/

namespace ContainerWatch.Watcher

open Engine Sighting

variable {setup : Setup} {attended next last : Attended} {turn : Turn} {turns : List Turn}
  {phase : StopCall} {call : Nat} {fault : Fault}

/-- Whether a turn is one of those who ask the listener to stop. -/
def Turn.isStopping : Turn → Bool
  | .callStop _ => true
  | .move made => made.isStopping
  | _ => false

/-- The stop calls of a run are made one after the other. -/
def CallsOneByOne (setup : Setup) (attended : Attended) (turns : List Turn) : Prop :=
  attended.history (shownBy overtakenBy) setup turns = []

/-- A fault is what is wrong with the wait of a stop call. -/
def FailsToWait (attended : Attended) (call : Nat) (fault : Fault) : Prop :=
  (attended.callerOf call).fault? = some fault

theorem Leads.exited (leads : Leads setup attended turn next)
    (exited : attended.state.listener = .exited) : next.state.listener = .exited := by
  cases leads with
  | moves _ _ stepped => exact exited_of_step? exited stepped
  | waits _ ends | waited ends => cases ends <;> exact exited
  | _ => exact exited

/-- A stop call that returns tells whether the listener counts as exited. -/
theorem Leads.answer {exited : Bool} (leads : Leads setup attended turn next)
    (returns : next.state.stops[call]? = some (.returned exited))
    (unreturned : attended.state.stops[call]? ≠ some (.returned exited)) :
    exited = true ↔ attended.writtenOff = true ∨ next.state.listener = .exited := by
  cases leads with
  | calls | callsUsually =>
      have stepped : step? setup attended.state .callStop = some (callStop attended.state) := rfl
      cases (waiting_of_returned stepped returns unreturned).1
  | moves _ calm stepped =>
      obtain ⟨own, waiting⟩ := waiting_of_returned stepped returns unreturned
      exact absurd waiting (calm call own)
  | @waits own answer after waiting ends =>
      have goes : (after.state.stops.set own (Attended.afterWait answer))[call]?
          = some (.returned exited) := returns
      have ended : after.state = attended.state := by cases ends <;> rfl
      rw [ended] at goes
      by_cases apart : own = call
      · subst apart
        rw [List.getElem?_set_self (List.getElem?_eq_some_iff.mp waiting).1] at goes
        cases ends with
        | answer =>
            cases goes
            rw [Bool.not_eq_true']
            exact Attended.isAlive_eq_false_iff
        | fault => cases goes
      · rw [List.getElem?_set_ne apart] at goes
        exact absurd goes unreturned
  | waited ends => cases ends <;> exact absurd returns unreturned
  | sees | looks => exact absurd returns unreturned

/-- Those who ask the listener to stop leave the notices and the record of failures alone. -/
theorem Leads.kept (leads : Leads setup attended turn next) (stopping : turn.isStopping = true) :
    next.state.failure = attended.state.failure ∧ next.state.reported = attended.state.reported ∧
      next.state.channel = attended.state.channel ∧ next.state.taken = attended.state.taken := by
  cases leads with
  | calls | callsUsually => exact ⟨rfl, rfl, rfl, rfl⟩
  | @moves move _ other _ stepped =>
      cases move with
      | callStop => exact absurd rfl other
      | stop call =>
          have beside := beside_of_step? stepped nofun
          have nothing : handedBy attended.state (.stop call) = [] := rfl
          refine ⟨beside.failure, beside.reported, ?_, ?_⟩
          · simpa [nothing, Attended.withState] using beside.channel
          · simpa [nothing, Attended.withState] using beside.taken
      | _ => cases stopping
  | waits _ ends => cases ends <;> exact ⟨rfl, rfl, rfl, rfl⟩
  | _ => cases stopping

section Opened

variable {options : Options} {client : Client} {watch : Watch}

/-- An opened watcher is its own shadow. -/
theorem shown_of_opened (opened : (openWith options client).report.outcome = .ok watch) :
    (Attended.of watch.state).state.shadow [] = watch.state ∧
      Shown (Attended.of watch.state).callers (Attended.of watch.state).state.stops [] := by
  obtain ⟨_, snapshot, _, _, _, _, _, start⟩ := openWith_eq_ok opened
  rw [start]
  exact ⟨rfl, .nil⟩

/-- Every run of an opened watcher has a shadow. -/
theorem exists_shadow (opened : (openWith options client).report.outcome = .ok watch)
    (ran : (Attended.of watch.state).run? watch.setup turns = some attended) :
    ∃ seen, run? watch.setup watch.state
        ((Attended.of watch.state).history shadowMoves watch.setup turns)
          = some (attended.state.shadow seen) ∧
      Shown attended.callers attended.state.stops seen := by
  obtain ⟨itself, none⟩ := shown_of_opened opened
  have shaded := none.of_run ran
  rwa [itself] at shaded

/-- A stop call that ends in a fault has asked the listener to stop.  The fault is that of its wait, or
    that of closing the stream, in which case the feed and its stream are closed. -/
theorem requested_of_raised (opened : (openWith options client).report.outcome = .ok watch)
    (ran : (Attended.of watch.state).run? watch.setup turns = some attended)
    (raised : attended.state.stops[call]? = some (.raised fault)) :
    attended.state.stopRequested = true ∧
      (FailsToWait attended call fault ∨
        client.streamCloseFault = some fault ∧ fault.kind.isTransport = false ∧
          attended.state.feed.closed = true ∧ attended.state.feed.stream.closed = true) := by
  obtain ⟨seen, ranToo, all⟩ := exists_shadow opened ran
  obtain ⟨shown, found, shows⟩ := all.at raised
  have member := List.mem_of_getElem? found
  have arranged := arranged_of_run opened ranToo
  cases shows with
  | same =>
      obtain ⟨own, stray, marked, closed⟩ := failedInClosing_of_run opened ranToo fault member
      rw [(settled_of_run opened ranToo).1] at own
      exact ⟨arranged.requested _ member nofun, .inr ⟨own, stray, marked, closed⟩⟩
  | fault _ wrong => exact ⟨arranged.requested _ member nofun, .inl wrong⟩

/-- If the stop calls are made one after the other and one of them fails in closing the stream, any
    other that is over has returned or has failed to wait. -/
theorem other_of_raised (opened : (openWith options client).report.outcome = .ok watch)
    (ran : (Attended.of watch.state).run? watch.setup turns = some attended)
    (oneByOne : CallsOneByOne watch.setup (Attended.of watch.state) turns)
    (raised : attended.state.stops[call]? = some (.raised fault))
    (waits : ¬FailsToWait attended call fault) {other : Nat} (apart : other ≠ call)
    (found : attended.state.stops[other]? = some phase) (done : phase.isOver = true) :
    (∃ exited, phase = .returned exited) ∨
      ∃ wrong, phase = .raised wrong ∧ FailsToWait attended other wrong := by
  obtain ⟨itself, none⟩ := shown_of_opened opened
  obtain ⟨seen, ranToo, all⟩ := exists_shadow opened ran
  have patient : OneByOne watch.setup watch.state
      ((Attended.of watch.state).history shadowMoves watch.setup turns) := by
    have same := overtakenBy_shadow none ran
    rw [CallsOneByOne] at oneByOne
    rwa [itself, oneByOne] at same
  have orderly := orderly_of_run opened ranToo patient
  obtain ⟨_, foundRaised, showsRaised⟩ := all.at raised
  obtain ⟨_, foundOther, showsOther⟩ := all.at found
  cases showsRaised with
  | fault _ wrong => exact absurd wrong waits
  | same =>
      cases showsOther with
      | answer told => exact .inl ⟨told, rfl⟩
      | fault _ wrong => exact .inr ⟨_, rfl, wrong⟩
      | same =>
          refine .inl (eq_returned_of_isOver done ?_)
          rw [Bool.eq_false_iff]
          intro may
          exact apart (orderly.finder other call _ _ foundOther foundRaised may rfl)

/-- A stop call that takes six steps is over, whatever its wait. -/
theorem isOver_of_steps {later : List Turn}
    (opened : (openWith options client).report.outcome = .ok watch)
    (ran : (Attended.of watch.state).run? watch.setup turns = some attended)
    (made : call < attended.state.stops.length)
    (ranOn : attended.run? watch.setup later = some last)
    (enough : 6 ≤ (later.flatMap Turn.moves).countP (·.isStepOf call)) :
    ∃ phase, last.state.stops[call]? = some phase ∧ phase.isOver = true := by
  obtain ⟨seen, _, all⟩ := exists_shadow opened ran
  obtain ⟨seenLast, ranOnToo, allLast⟩ := all.of_run ranOn
  rw [← countP_shadowMoves call ranOn] at enough
  obtain ⟨shown, found, done⟩ := stop_isOver_of_run (all.length_eq ▸ made) ranOnToo enough
  have inside : call < last.state.stops.length :=
    allLast.length_eq ▸ (List.getElem?_eq_some_iff.mp found).1
  obtain ⟨_, foundToo, shows⟩ := allLast.at (List.getElem?_eq_getElem inside)
  cases found.symm.trans foundToo
  exact ⟨_, List.getElem?_eq_getElem inside, shows.isOver.symm.trans done⟩

/-- Once a stop is requested, whatever the waits: nothing is put on the channel but a notice that the
    listener went to put there already, no payload that is read thereafter is told, and a listener that
    has not looked a last time records no failure and tells the owner of none. -/
theorem heeds_of_run {later : List Turn}
    (opened : (openWith options client).report.outcome = .ok watch)
    (ran : (Attended.of watch.state).run? watch.setup turns = some attended)
    (requested : attended.state.stopRequested = true)
    (ranOn : attended.run? watch.setup later = some last) :
    (attended.history (shownBy putBy) watch.setup later = [] ∨
      ∃ notice, attended.state.listener = .putting notice ∧
        attended.history (shownBy putBy) watch.setup later = [notice]) ∧
    (∃ feed, FeedTells watch.setup.filter
        ((Attended.of watch.state).history (shownBy receivedBy) watch.setup turns) feed ∧
      (Attended.of watch.state).history (shownBy putBy) watch.setup (turns ++ later) <+: feed) ∧
    (attended.state.listener.isUndecided = true →
      last.state.failure = none ∧ last.state.reported = []) := by
  obtain ⟨itself, none⟩ := shown_of_opened opened
  obtain ⟨seen, ranToo, all⟩ := exists_shadow opened ran
  obtain ⟨seenLast, ranOnToo, _⟩ := all.of_run ranOn
  have asked : (attended.state.shadow seen).stopRequested = true := requested
  refine ⟨?_, ?_, ?_⟩
  · have few := putBy_after_stop asked ranOnToo
    rwa [putBy_shadow all ranOn] at few
  · have read := receivedBy_shadow none ran
    have put := putBy_shadow none ran
    rw [itself] at read put
    refine ⟨_, feedTells_noticesOfFeed _ _, ?_⟩
    rw [Attended.history_append _ _ ran, ← put, ← putBy_shadow all ranOn,
      ← history_append putBy _ _ ranToo, ← read]
    exact putBy_isPrefix_of_stop opened ranToo asked ranOnToo
  · intro undecided
    have heeds := heeded_of_isUndecided (lawful_of_run opened ranToo) asked undecided
    have heeded : Heeded (last.state.shadow seenLast) :=
      run?_invariant (fun _ _ _ heeded stepped => heeded_of_step? heeded stepped) heeds ranOnToo
    exact heeded.2.1

/-- An engine whose stream holds nothing, and is closed in a stray fault. -/
def idleStrayClient : Client := { streamCloseFault := some strayFault }

/-- A run in which a stop call fails in closing the stream, the listener exits, and another call is
    made, for as long as it takes, and comes to wait. -/
def repeatedTurns : List Turn :=
  List.replicate 4 (.move .listen) ++ .callStop { timeout := .whole 0 } ::
    List.replicate 5 (.move (.stop 0)) ++ List.replicate 4 (.move .listen)
    ++ .callStop { timeout := .forever } :: List.replicate 3 (.move (.stop 1))

theorem fits_of_mem_repeatedTurns : ∀ turn ∈ repeatedTurns, turn.Fits := by
  simp [repeatedTurns, Turn.Fits, Caller.fault?, Timeout.fault?, Timeout.longest]

/-- A run in which a stop call waits for longer than a clock can tell while the listener subscribes,
    and another call is made thereafter. -/
def overlongTurns : List Turn :=
  .move .listen :: .callStop { timeout := .fraction (.ofInt 10000000000) } ::
    List.replicate 3 (.move (.stop 0)) ++ .callStop .usual :: List.replicate 3 (.move (.stop 1))

end Opened

end ContainerWatch.Watcher
