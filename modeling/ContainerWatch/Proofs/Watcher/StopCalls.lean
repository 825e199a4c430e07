import ContainerWatch.Proofs.Watcher.Feeds
import ContainerWatch.Proofs.Watcher.Stopping

/-!
# One stop call after the other

A stop may be asked for again, also when an earlier call has ended in the fault of closing the stream.
As long as the calls are made one after the other, the first that finds the feed open marks it as
closed before anything can go wrong, so that no later call comes to close the stream and to fail.
-/

namespace ContainerWatch.Watcher

open Engine Sighting

variable {setup : Setup} {first state next last : State} {move : Move} {moves : List Move}
  {call : Nat} {phase later : StopCall} {property : StopCall → Bool}

/-- Whether a stop call has found the feed open and its closing may yet end in a fault, or has done
    so. -/
def StopCall.mayRaise : StopCall → Bool
  | marking | closingStream | raised _ => true
  | _ => false

/-- How many steps a stop call takes at most until it is over. -/
def StopCall.stepsLeft : StopCall → Nat
  | called => 6
  | requested => 5
  | closing => 4
  | marking => 3
  | closingStream => 2
  | waiting => 1
  | returned _ | raised _ => 0

/-- Whether a move is a step of a certain stop call. -/
def Move.isStepOf (call : Nat) : Move → Bool
  | stop other => other == call
  | _ => false

/-- Whether a move is one of those who ask the listener to stop. -/
def Move.isStopping : Move → Bool
  | callStop | stop _ => true
  | _ => false

/-- The stop calls that are not over when another one is made. -/
def overtakenBy (state : State) : Move → List StopCall
  | .callStop => state.stops.filter (!·.isOver)
  | _ => []

/-- The stop calls of a run are made one after the other. -/
def OneByOne (setup : Setup) (first : State) (moves : List Move) : Prop :=
  history overtakenBy setup first moves = []

/-- At most one stop call has a property. -/
def Sole (property : StopCall → Bool) (state : State) : Prop :=
  ∀ (i j : Nat) (p q : StopCall), state.stops[i]? = some p → state.stops[j]? = some q →
    property p = true → property q = true → i = j

/-! ## One call -/

theorem nextStop_of_isOver (done : phase.isOver = true) : nextStop state phase = phase := by
  cases phase with
  | returned _ | raised _ => rfl
  | _ => cases done

/-- A call comes nearer to its end with every step. -/
theorem stepsLeft_nextStop (state : State) (phase : StopCall) :
    (nextStop state phase).stepsLeft ≤ phase.stepsLeft - 1 := by
  cases phase with
  | requested | closing | closingStream =>
      simp only [nextStop]
      split <;> simp [StopCall.stepsLeft]
  | _ => simp [nextStop, StopCall.stepsLeft]

theorem isOver_of_stepsLeft (none : phase.stepsLeft = 0) : phase.isOver = true := by
  cases phase with
  | returned _ | raised _ => rfl
  | _ => cases none

theorem eq_returned_of_isOver (done : phase.isOver = true) (calm : phase.mayRaise = false) :
    ∃ exited, phase = .returned exited := by
  cases phase with
  | returned exited => exact ⟨exited, rfl⟩
  | raised _ => cases calm
  | _ => cases done

/-- A call comes to close the stream, and to fail, only by finding the feed open. -/
theorem mayRaise_of_nextStop (may : (nextStop state phase).mayRaise = true) :
    phase.mayRaise = true ∨ phase = .closing ∧ state.feed.closed = false := by
  cases phase with
  | marking | closingStream | raised _ => exact .inl rfl
  | closing =>
      refine .inr ⟨rfl, ?_⟩
      cases marked : state.feed.closed with
      | false => rfl
      | true =>
          simp only [nextStop, marked] at may
          cases may
  | requested =>
      simp only [nextStop] at may
      split at may <;> cases may
  | _ => cases may

/-- The stop call that is made by a move or goes on in it. -/
def callOf (state : State) : Move → Option Nat
  | .callStop => some state.stops.length
  | .stop call => some call
  | _ => none

theorem stops_of_callOf_ne (stepped : step? setup state move = some next)
    (other : callOf state move ≠ some call) : next.stops[call]? = state.stops[call]? := by
  cases move with
  | stop moved =>
      obtain ⟨phase, found, rfl⟩ := Option.map_eq_some_iff.mp stepped
      have apart : moved ≠ call := fun same => other (congrArg some same)
      rw [stopStep_stops found, List.getElem?_set_ne apart]
  | callStop =>
      cases stepped
      have apart : state.stops.length ≠ call := fun same => other (congrArg some same)
      change (state.stops ++ [StopCall.called])[call]? = state.stops[call]?
      rcases Nat.lt_or_gt_of_ne apart with beyond | inside
      · rw [List.getElem?_eq_none (Nat.le_of_lt beyond), List.getElem?_eq_none]
        rw [List.length_append, List.length_singleton]
        omega
      · rw [List.getElem?_append_left inside]
  | listen =>
      cases stepped
      rw [listen_stops]
  | read =>
      obtain ⟨phase, _, rfl⟩ := Option.map_eq_some_iff.mp stepped
      cases phase with
      | polling =>
          simp only [readStep, poll, State.take?]
          cases state.channel <;> rfl
      | _ => rfl
  | take =>
      simp only [step?, State.take?] at stepped
      cases waiting : state.channel <;> simp only [waiting] at stepped <;> cases stepped
      rfl
  | openReader | closeReader =>
      simp only [step?] at stepped
      split at stepped <;> cases stepped
      rfl
  | deliver item =>
      cases stepped
      rfl

/-- Where a call is after a move: it was there before, or it was made, or it has gone on by itself. -/
theorem stop_of_step? (stepped : step? setup state move = some next)
    (found : next.stops[call]? = some later) :
    state.stops[call]? = some later ∨
      move = .callStop ∧ state.stops.length = call ∧ later = .called ∨
      move = .stop call ∧ ∃ phase, state.stops[call]? = some phase ∧
        later = nextStop state phase := by
  by_cases own : callOf state move = some call
  · cases move with
    | callStop =>
        cases stepped
        cases own
        refine .inr (.inl ⟨rfl, rfl, ?_⟩)
        change (state.stops ++ [StopCall.called])[state.stops.length]? = some later at found
        rw [List.getElem?_concat_length] at found
        exact (Option.some.inj found).symm
    | stop moved =>
        cases own
        obtain ⟨phase, before, rfl⟩ := Option.map_eq_some_iff.mp stepped
        rw [stopStep_stops before,
          List.getElem?_set_self (List.getElem?_eq_some_iff.mp before).1] at found
        exact .inr (.inr ⟨rfl, phase, before, (Option.some.inj found).symm⟩)
    | _ => cases own
  · rw [stops_of_callOf_ne stepped own] at found
    exact .inl found

/-- With every step of its own a call comes nearer to its end, and nobody else puts it back. -/
theorem stepsLeft_of_step? (found : state.stops[call]? = some phase)
    (stepped : step? setup state move = some next) :
    ∃ later, next.stops[call]? = some later ∧
      later.stepsLeft ≤ phase.stepsLeft - (move.isStepOf call).toNat := by
  have inside : call < state.stops.length := (List.getElem?_eq_some_iff.mp found).1
  by_cases own : move = .stop call
  · subst own
    obtain ⟨same, before, rfl⟩ := Option.map_eq_some_iff.mp stepped
    cases found.symm.trans before
    refine ⟨nextStop state phase, ?_, ?_⟩
    · rw [stopStep_stops before, List.getElem?_set_self inside]
    · simpa [Move.isStepOf] using stepsLeft_nextStop state phase
  · have apart : callOf state move ≠ some call := by
      intro same
      cases move with
      | stop moved => exact own (congrArg Move.stop (Option.some.inj same))
      | callStop =>
          cases same
          exact absurd inside (Nat.lt_irrefl _)
      | _ => cases same
    have others : move.isStepOf call = false := by
      cases move with
      | stop moved => simpa [Move.isStepOf] using own
      | _ => rfl
    refine ⟨phase, ?_, ?_⟩
    · rw [stops_of_callOf_ne stepped apart, found]
    · rw [others]
      exact Nat.le_refl _

/-- A call comes nearer to its end by as many steps as it takes in a run. -/
theorem stepsLeft_of_run (found : first.stops[call]? = some phase)
    (ran : run? setup first moves = some last) :
    ∃ later, last.stops[call]? = some later ∧
      later.stepsLeft ≤ phase.stepsLeft - moves.countP (·.isStepOf call) := by
  refine run?_induction (motive := fun moves state => ∃ later,
    state.stops[call]? = some later ∧
      later.stepsLeft ≤ phase.stepsLeft - moves.countP (·.isStepOf call))
    ⟨phase, found, Nat.le_refl _⟩ ?_ ran
  rintro before state move next - ⟨middle, foundMiddle, nearer⟩ stepped
  obtain ⟨later, foundLater, less⟩ := stepsLeft_of_step? foundMiddle stepped
  refine ⟨later, foundLater, ?_⟩
  have counted : (before ++ [move]).countP (·.isStepOf call)
      = before.countP (·.isStepOf call) + (move.isStepOf call).toNat := by
    cases own : move.isStepOf call <;> simp [List.countP_append, own]
  omega

/-- A call that takes six steps is over, whatever happens besides. -/
theorem stop_isOver_of_run (made : call < first.stops.length)
    (ran : run? setup first moves = some last)
    (enough : 6 ≤ moves.countP (·.isStepOf call)) :
    ∃ phase, last.stops[call]? = some phase ∧ phase.isOver = true := by
  obtain ⟨later, found, left⟩ := stepsLeft_of_run (List.getElem?_eq_getElem made) ran
  have most : ∀ phase : StopCall, phase.stepsLeft ≤ 6 := by
    intro phase
    cases phase <;> simp [StopCall.stepsLeft]
  have bound := most first.stops[call]
  exact ⟨later, found, isOver_of_stepsLeft (by omega)⟩

/-- A call returns only from waiting. -/
theorem waiting_of_returned {exited : Bool} (stepped : step? setup state move = some next)
    (returns : next.stops[call]? = some (.returned exited))
    (unreturned : state.stops[call]? ≠ some (.returned exited)) :
    move = .stop call ∧ state.stops[call]? = some .waiting := by
  rcases stop_of_step? stepped returns with before | ⟨_, _, made⟩ | ⟨rfl, phase, found, goes⟩
  · exact absurd before unreturned
  · cases made
  · refine ⟨rfl, ?_⟩
    cases phase with
    | waiting => exact found
    | returned earlier =>
        cases goes
        exact absurd found unreturned
    | requested | closing | closingStream =>
        simp only [nextStop] at goes
        split at goes <;> cases goes
    | _ => cases goes

/-! ## A call that fails -/

/-- What is so when some call has ended in a fault: that is the fault of closing the stream, which the
    feed does not only note, and the feed and its stream are closed. -/
def FailedInClosing (state : State) : Prop :=
  ∀ fault, .raised fault ∈ state.stops →
    state.feed.stream.closeFault = some fault ∧ fault.kind.isTransport = false ∧
      state.feed.closed = true ∧ state.feed.stream.closed = true

/-- A call fails only in closing the stream of a feed that is marked. -/
theorem failedInClosing_of_step? (arranged : Arranged setup state)
    (failed : FailedInClosing state) (stepped : step? setup state move = some next) :
    FailedInClosing next := by
  intro fault member
  obtain ⟨staysMarked, staysClosed⟩ := feedBy_stays_closed state move
  rw [feed_of_step? stepped, (feedBy_settled state move).1]
  have older : .raised fault ∈ state.stops →
      state.feed.stream.closeFault = some fault ∧ fault.kind.isTransport = false ∧
        (feedBy state move).closed = true ∧ (feedBy state move).stream.closed = true := by
    intro old
    obtain ⟨same, stray, marked, closed⟩ := failed fault old
    exact ⟨same, stray, staysMarked marked, staysClosed closed⟩
  obtain ⟨call, raises⟩ := List.mem_iff_getElem?.mp member
  rcases stop_of_step? stepped raises with before | ⟨_, _, made⟩ | ⟨rfl, phase, found, goes⟩
  · exact older (List.mem_of_getElem? before)
  · cases made
  · cases phase with
    | closingStream =>
        have marked := arranged.marked ⟨call, found⟩
        have fails : (Feed.afterClosing state.feed.stream.closeFault).outcome = .error fault := by
          simp only [nextStop] at goes
          split at goes
          · cases goes
          · cases goes
            assumption
        obtain ⟨same, stray⟩ := closeFault_of_afterClosing fails
        refine ⟨same, stray, staysMarked marked, ?_⟩
        simp only [feedBy, found]
        rfl
    | raised _ =>
        cases goes
        exact older (List.mem_of_getElem? found)
    | requested | closing =>
        simp only [nextStop] at goes
        split at goes <;> cases goes
    | _ => cases goes

/-! ## One call after the other -/

/-- At most one call has a property after a move if the call that the move is about, should it have
    the property, is the only one that has had it. -/
theorem Sole.of_step? (sole : Sole property state) (stepped : step? setup state move = some next)
    (enters : ∀ call later, callOf state move = some call → next.stops[call]? = some later →
      property later = true →
      ∀ (i : Nat) (p : StopCall), state.stops[i]? = some p → property p = true → i = call) :
    Sole property next := by
  intro i j p q at_i at_j holds_i holds_j
  by_cases own_i : callOf state move = some i
  · by_cases own_j : callOf state move = some j
    · exact Option.some.inj (own_i.symm.trans own_j)
    · rw [stops_of_callOf_ne stepped own_j] at at_j
      exact (enters i p own_i at_i holds_i j q at_j holds_j).symm
  · rw [stops_of_callOf_ne stepped own_i] at at_i
    by_cases own_j : callOf state move = some j
    · exact enters j q own_j at_j holds_j i p at_i holds_i
    · rw [stops_of_callOf_ne stepped own_j] at at_j
      exact sole i j p q at_i at_j holds_i holds_j

/-- What is so when the stop calls are made one after the other: one at most is not over, and one at
    most has found the feed open. -/
structure Orderly (state : State) : Prop where
  unfinished : Sole (!·.isOver) state
  finder : Sole (·.mayRaise) state

/-- Every move keeps to the order if no call overtakes another one. -/
theorem orderly_of_step? (failed : FailedInClosing state) (orderly : Orderly state)
    (patient : overtakenBy state move = []) (stepped : step? setup state move = some next) :
    Orderly next where
  unfinished := by
    refine orderly.unfinished.of_step? stepped ?_
    intro call later own found unfinished i p at_i unfinishedToo
    rcases stop_of_step? stepped found with before | ⟨rfl, _, _⟩ | ⟨_, phase, before, rfl⟩
    · exact orderly.unfinished i call p later at_i before unfinishedToo unfinished
    · have done := List.filter_eq_nil_iff.mp patient p (List.mem_of_getElem? at_i)
      exact absurd unfinishedToo done
    · refine orderly.unfinished i call p phase at_i before unfinishedToo ?_
      change (!phase.isOver) = true
      cases done : phase.isOver with
      | false => rfl
      | true =>
          rw [nextStop_of_isOver done, done] at unfinished
          cases unfinished
  finder := by
    refine orderly.finder.of_step? stepped ?_
    intro call later own found may i p at_i mayToo
    rcases stop_of_step? stepped found with before | ⟨_, _, rfl⟩ | ⟨_, phase, before, rfl⟩
    · exact orderly.finder i call p later at_i before mayToo may
    · cases may
    · rcases mayRaise_of_nextStop may with already | ⟨rfl, unmarked⟩
      · exact orderly.finder i call p phase at_i before mayToo already
      · -- the feed is not marked, so no call has failed and the other one is not over either
        refine orderly.unfinished i call p .closing at_i before ?_ rfl
        cases p with
        | raised fault =>
            have marked := (failed fault (List.mem_of_getElem? at_i)).2.2.1
            exact absurd (marked.symm.trans unmarked) nofun
        | marking | closingStream => rfl
        | _ => cases mayToo

section Opened

variable {options : Options} {client : Client} {watch : Watch}

/-- The calls that have failed have failed in closing, wherever the run of an opened watcher has come
    to. -/
theorem failedInClosing_of_run (opened : (openWith options client).report.outcome = .ok watch)
    (ran : run? watch.setup watch.state moves = some state) : FailedInClosing state := by
  obtain ⟨_, snapshot, _, _, _, _, _, start⟩ := openWith_eq_ok opened
  refine run?_induction (motive := fun _ state => FailedInClosing state) ?_ ?_ ran
  · rw [start]
    exact nofun
  · intro before state move next ran failed stepped
    exact failedInClosing_of_step? (arranged_of_run opened ran) failed stepped

/-- Calls that are made one after the other keep to the order. -/
theorem orderly_of_run (opened : (openWith options client).report.outcome = .ok watch)
    (ran : run? watch.setup watch.state moves = some state)
    (oneByOne : OneByOne watch.setup watch.state moves) : Orderly state := by
  obtain ⟨_, snapshot, _, _, _, _, _, start⟩ := openWith_eq_ok opened
  refine run?_induction (motive := fun moves state =>
    OneByOne watch.setup watch.state moves → Orderly state) ?_ ?_ ran oneByOne
  · intro _
    rw [start]
    exact ⟨nofun, nofun⟩
  · intro before state move next ran earlier stepped oneByOne
    rw [OneByOne, history_snoc _ ran stepped, List.append_eq_nil_iff] at oneByOne
    exact orderly_of_step? (failedInClosing_of_run opened ran) (earlier oneByOne.1) oneByOne.2
      stepped

end Opened

end ContainerWatch.Watcher
