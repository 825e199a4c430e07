import ContainerWatch.Proofs.Watcher.StopCalls
import ContainerWatch.Watcher.Waiting

/-!
# Turns

What a turn does, in one place.  A turn that is not about waiting is a move, and a wait leaves the
watcher as it was.  As long as nothing is wrong with any wait, a listener that counts as exited has
exited, so that the turns make the moves of a run and no others.
-/

namespace ContainerWatch.Watcher

variable {setup : Setup} {attended next after last : Attended} {turn : Turn} {turns : List Turn}
  {caller : Caller} {answer : Except Fault Bool}

/-- The moves that a turn makes: none if somebody only waits or looks. -/
def Turn.moves : Turn → List Move
  | .move made => [made]
  | .callStop _ => [.callStop]
  | .wait _ | .look => []

/-- Nothing is wrong with the wait of which a turn is about. -/
def Turn.Fits : Turn → Prop
  | .callStop caller | .wait caller => caller.fault? = none
  | _ => True

/-! ## Waits -/

theorem Attended.isAlive_eq_false_iff :
    attended.isAlive = false ↔ attended.writtenOff = true ∨ attended.state.listener = .exited := by
  rw [← isRunning_eq_false_iff]
  cases off : attended.writtenOff <;> simp [Attended.isAlive, off]

theorem Attended.isAlive_look : attended.look.isAlive = attended.isAlive := by
  cases off : attended.writtenOff <;> simp [Attended.isAlive, Attended.look, off]

/-- A second look is in vain. -/
theorem Attended.look_look : attended.look.look = attended.look := by
  rw [look, isAlive_look]
  rfl

/-- How a wait ends that does: with whether the listener counts as exited, of which it is written down
    that it does, or in the fault that is wrong with the wait. -/
inductive Ends (caller : Caller) (attended : Attended) : Except Fault Bool → Attended → Prop
  | answer : Ends caller attended (.ok !attended.isAlive) attended.look
  | fault {fault : Fault} {writtenOff : Bool} (wrong : caller.fault? = some fault) :
      Ends caller attended (.error fault) { attended with writtenOff := writtenOff }

/-- A wait for the exit that does not end in a fault changes nothing but that somebody may have
    looked. -/
theorem Attended.join?_eq_some {outcome : Except Fault Unit}
    (ended : attended.join? caller = some (outcome, after)) :
    (outcome = .ok () ∧ (after = attended ∨ after = attended.look)) ∨
      ∃ fault writtenOff, outcome = .error fault ∧ caller.fault? = some fault ∧
        after = { attended with writtenOff := writtenOff } := by
  unfold join? at ended
  by_cases own : caller.isListener = true
  · rw [if_pos own] at ended
    cases ended
    exact .inr ⟨_, attended.writtenOff, rfl, if_pos own, rfl⟩
  · rw [if_neg own] at ended
    have timed : caller.fault? = caller.timeout.fault? := if_neg own
    split at ended
    · cases ended
      exact .inl ⟨rfl, .inl rfl⟩
    · split at ended
      · next fault wrong =>
          cases ended
          exact .inr ⟨fault, _, rfl, timed.trans wrong, rfl⟩
      · split at ended
        · cases ended
        · cases ended
          exact .inl ⟨rfl, .inr rfl⟩

theorem Attended.ends_of_wait? (ended : attended.wait? caller = some (answer, after)) :
    Ends caller attended answer after := by
  unfold wait? at ended
  split at ended
  · next next joined =>
      cases ended
      rcases join?_eq_some joined with ⟨_, rfl | rfl⟩ | ⟨_, _, failed, _⟩
      · exact .answer
      · rw [isAlive_look, look_look]
        exact .answer
      · cases failed
  · next fault next joined =>
      cases ended
      rcases join?_eq_some joined with ⟨ok, _⟩ | ⟨_, _, failed, wrong, rfl⟩
      · cases ok
      · cases failed
        exact .fault wrong
  · cases ended

/-- A wait comes to an end unless it may last forever and the listener counts as running. -/
theorem Attended.exists_wait? (bounded : caller.timeout ≠ .forever ∨ attended.isAlive = false) :
    ∃ ended, attended.wait? caller = some ended := by
  have joined : ∃ outcome after, attended.join? caller = some (outcome, after) := by
    unfold join?
    by_cases own : caller.isListener = true
    · exact ⟨_, _, if_pos own⟩
    · rw [if_neg own]
      by_cases off : attended.writtenOff = true
      · exact ⟨_, _, if_pos off⟩
      · rw [if_neg off]
        cases caller.timeout.fault? with
        | some fault => exact ⟨_, _, rfl⟩
        | none =>
            refine ⟨_, _, if_neg ?_⟩
            rcases bounded with bounded | exited <;> simp_all
  obtain ⟨outcome, after, joined⟩ := joined
  rw [wait?, joined]
  cases outcome <;> exact ⟨_, rfl⟩

/-- A stop call may take a step unless it waits forever for a listener that counts as running. -/
theorem Attended.exists_stop? {call : Nat} (made : call < attended.state.stops.length)
    (bounded : (attended.callerOf call).timeout ≠ .forever ∨ attended.isAlive = false) :
    ∃ next, attended.stop? call = some next := by
  rw [stop?, List.getElem?_eq_getElem made]
  cases attended.state.stops[call] with
  | waiting =>
      obtain ⟨ended, waited⟩ := exists_wait? bounded
      exact ⟨_, congrArg (Option.map _) waited⟩
  | _ => exact ⟨_, rfl⟩

/-! ## What a turn does -/

/-- What a turn leads to. -/
inductive Leads (setup : Setup) (attended : Attended) : Turn → Attended → Prop
  | calls (caller : Caller) : Leads setup attended (.callStop caller) (attended.call caller)
  | callsUsually : Leads setup attended (.move .callStop) (attended.call .usual)
  | moves {move : Move} {next : State} (other : move ≠ .callStop)
      (calm : ∀ call, move = .stop call → attended.state.stops[call]? ≠ some .waiting)
      (stepped : Watcher.step? setup attended.state move = some next) :
      Leads setup attended (.move move) (attended.withState next)
  | waits {call : Nat} {answer : Except Fault Bool} {after : Attended}
      (waiting : attended.state.stops[call]? = some .waiting)
      (ends : Ends (attended.callerOf call) attended answer after) :
      Leads setup attended (.move (.stop call))
        (after.withState (after.state.stopAt call (Attended.afterWait answer)))
  | sees (polled : attended.state.reader = some (.sawFailure none)) :
      Leads setup attended (.move .read)
        (attended.look.withState (attended.state.readerAt (.judged none !attended.isAlive)))
  | waited {caller : Caller} {answer : Except Fault Bool} {after : Attended}
      (ends : Ends caller attended answer after) : Leads setup attended (.wait caller) after
  | looks : Leads setup attended .look attended.look

theorem Leads.of_move {move : Move} {next : State} (other : move.isStopping = false)
    (stepped : Watcher.step? setup attended.state move = some next) :
    Leads setup attended (.move move) (attended.withState next) := by
  refine .moves ?_ ?_ stepped
  · rintro rfl
    cases other
  · rintro call rfl
    cases other

/-- Every turn that is possible leads to one of these. -/
theorem Attended.leads_of_step? (stepped : attended.step? setup turn = some next) :
    Leads setup attended turn next := by
  cases turn with
  | callStop caller =>
      simp only [step?] at stepped
      split at stepped <;> cases stepped
      exact .calls caller
  | wait caller =>
      simp only [step?] at stepped
      split at stepped
      · obtain ⟨⟨answer, after⟩, ended, rfl⟩ := Option.map_eq_some_iff.mp stepped
        exact .waited (ends_of_wait? ended)
      · cases stepped
  | look =>
      cases stepped
      exact .looks
  | move move =>
      cases move with
      | callStop =>
          cases stepped
          exact .callsUsually
      | listen =>
          simp only [step?] at stepped
          split at stepped <;> cases stepped
          exact .of_move rfl rfl
      | stop call =>
          simp only [step?, stop?] at stepped
          split at stepped
          · cases stepped
          · next waiting =>
              obtain ⟨⟨answer, after⟩, ended, rfl⟩ := Option.map_eq_some_iff.mp stepped
              exact .waits waiting (ends_of_wait? ended)
          · next phase calm found =>
              cases stepped
              refine .moves (Move.noConfusion) ?_ (by rw [Watcher.step?, found]; rfl)
              rintro _ ⟨⟩ waiting
              exact calm (Option.some.inj (found.symm.trans waiting))
      | read =>
          simp only [step?, read?] at stepped
          split at stepped
          · next polled =>
              cases stepped
              exact .sees polled
          · next phase _ found =>
              cases stepped
              exact .of_move rfl (by rw [Watcher.step?, found]; rfl)
          · cases stepped
      | _ =>
          simp only [step?, Option.map_eq_some_iff] at stepped
          obtain ⟨state, moved, rfl⟩ := stepped
          exact .of_move rfl moved

/-! ## Where nothing is wrong with a wait -/

/-- Nothing is wrong with the waits of those who have made stop calls, and a listener that counts as
    exited has exited. -/
structure Sound (attended : Attended) : Prop where
  fit : ∀ caller ∈ attended.callers, caller.fault? = none
  fair : attended.writtenOff = true → attended.state.listener = .exited

theorem Attended.sound_of (state : State) : Sound (Attended.of state) := ⟨nofun, nofun⟩

theorem Caller.fault?_usual : Caller.usual.fault? = none := rfl

theorem Sound.isAlive (sound : Sound attended) : attended.isAlive = attended.state.isRunning := by
  cases off : attended.writtenOff with
  | false => rw [Attended.isAlive, off, Bool.not_false, Bool.true_and]
  | true =>
      rw [Attended.isAlive, off, Bool.not_true, Bool.false_and]
      exact (isRunning_eq_false_iff.mpr (sound.fair off)).symm

theorem Sound.look (sound : Sound attended) : Sound attended.look := by
  refine ⟨sound.fit, fun off => ?_⟩
  rw [Attended.look, Bool.not_eq_true', sound.isAlive] at off
  exact isRunning_eq_false_iff.mp off

theorem Sound.callerOf (sound : Sound attended) (call : Nat) :
    (attended.callerOf call).fault? = none := by
  rw [Attended.callerOf, List.getD_eq_getElem?_getD]
  cases found : attended.callers[call]? with
  | none => exact Caller.fault?_usual
  | some caller => exact sound.fit caller (List.mem_of_getElem? found)

/-- A turn with whose wait nothing is wrong makes its moves, and things remain sound. -/
theorem Sound.of_leads (sound : Sound attended) (fits : turn.Fits)
    (leads : Leads setup attended turn next) :
    Watcher.run? setup attended.state turn.moves = some next.state ∧ Sound next := by
  have ended {caller : Caller} {answer : Except Fault Bool} {after : Attended}
      (fit : caller.fault? = none) (ends : Ends caller attended answer after) :
      answer = .ok !attended.state.isRunning ∧ after = attended.look := by
    cases ends with
    | answer => exact ⟨by rw [sound.isAlive], rfl⟩
    | fault wrong => cases fit.symm.trans wrong
  have called {caller : Caller} (fit : caller.fault? = none) : Sound (attended.call caller) := by
    refine ⟨?_, sound.fair⟩
    intro other member
    rcases List.mem_append.mp member with old | new
    · exact sound.fit other old
    · exact List.mem_singleton.mp new ▸ fit
  cases leads with
  | calls caller => exact ⟨rfl, called fits⟩
  | callsUsually => exact ⟨rfl, called Caller.fault?_usual⟩
  | moves _ _ stepped =>
      refine ⟨by rw [Turn.moves, run?, stepped]; rfl, sound.fit, fun off => ?_⟩
      exact exited_of_step? (sound.fair off) stepped
  | waits waiting ends =>
      obtain ⟨rfl, rfl⟩ := ended (sound.callerOf _) ends
      refine ⟨?_, sound.look.fit, sound.look.fair⟩
      simp only [Turn.moves, run?, Watcher.step?, waiting, Option.map_some, stopStep]
      rfl
  | sees polled =>
      refine ⟨?_, sound.look.fit, sound.look.fair⟩
      simp only [Turn.moves, run?, Watcher.step?, polled, Option.map_some, readStep,
        Option.isSome_none, Bool.false_or, sound.isAlive]
      rfl
  | waited ends =>
      obtain ⟨-, rfl⟩ := ended fits ends
      exact ⟨rfl, sound.look⟩
  | looks => exact ⟨rfl, sound.look⟩

theorem Sound.of_run (sound : Sound attended) (fits : ∀ turn ∈ turns, turn.Fits)
    (ran : attended.run? setup turns = some last) :
    Watcher.run? setup attended.state (turns.flatMap Turn.moves) = some last.state ∧ Sound last := by
  induction turns generalizing attended with
  | nil =>
      cases ran
      exact ⟨rfl, sound⟩
  | cons turn turns ih =>
      obtain ⟨fit, fits⟩ := List.forall_mem_cons.mp fits
      simp only [Attended.run?] at ran
      split at ran
      · next next stepped =>
          obtain ⟨moved, sound⟩ := sound.of_leads fit (Attended.leads_of_step? stepped)
          obtain ⟨movedOn, sound⟩ := ih sound fits ran
          refine ⟨?_, sound⟩
          rw [List.flatMap_cons, run?_append, moved, Option.bind_some, movedOn]
      · cases ran

end ContainerWatch.Watcher
