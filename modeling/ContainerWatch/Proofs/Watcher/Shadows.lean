import ContainerWatch.Proofs.Watcher.Turns

/-!
# Shadows of runs

A wait that goes wrong concerns its caller, and whoever asks thereafter whether the listener has
exited.  The listener itself, the engine and the calls that have not come to wait go on as if the wait
had ended well.  So every run has a shadow, a run of moves alone that nobody reads, whose states differ
from its own in nothing but how the calls have ended.  What holds of such runs is seen in the shadow.
-/

namespace ContainerWatch.Watcher

open Engine Sighting

variable {setup : Setup} {state : State} {attended next last : Attended} {turn : Turn}
  {turns : List Turn} {caller : Caller} {callers : List Caller} {phase shown : StopCall}
  {phases stops : List StopCall} {call : Nat}

/-! ## The shadow of a state -/

/-- How a stop call shows in the shadow: as it is, but for how it has ended.  One that has ended in the
    fault of its wait shows as one that has returned. -/
inductive Shows (caller : Caller) : StopCall → StopCall → Prop
  | same (phase : StopCall) : Shows caller phase phase
  | answer (told seen : Bool) : Shows caller (.returned told) (.returned seen)
  | fault {fault : Fault} (seen : Bool) (wrong : caller.fault? = some fault) :
      Shows caller (.raised fault) (.returned seen)

theorem Shows.isOver (shows : Shows caller phase shown) : shown.isOver = phase.isOver := by
  cases shows <;> rfl

theorem Shows.eq_of_unfinished (shows : Shows caller phase shown) (unfinished : phase.isOver = false) :
    shown = phase := by
  cases shows with
  | same => rfl
  | answer | fault => cases unfinished

/-- Stop calls, with those who make them, and how they show in the shadow. -/
inductive Shown : List Caller → List StopCall → List StopCall → Prop
  | nil : Shown [] [] []
  | cons {caller : Caller} {phase shown : StopCall} {callers : List Caller}
      {phases stops : List StopCall} (first : Shows caller phase shown)
      (rest : Shown callers phases stops) :
      Shown (caller :: callers) (phase :: phases) (shown :: stops)

theorem Shown.at (all : Shown callers phases stops) (found : phases[call]? = some phase) :
    ∃ shown, stops[call]? = some shown ∧ Shows (callers.getD call .usual) phase shown := by
  induction all generalizing call with
  | nil => cases found
  | cons first rest ih =>
      cases call with
      | zero =>
          cases found
          exact ⟨_, rfl, first⟩
      | succ call => exact ih found

theorem Shown.set (all : Shown callers phases stops)
    (shows : Shows (callers.getD call .usual) phase shown) :
    Shown callers (phases.set call phase) (stops.set call shown) := by
  induction all generalizing call with
  | nil => exact .nil
  | cons first rest ih =>
      cases call with
      | zero => exact .cons shows rest
      | succ call => exact .cons first (ih shows)

theorem Shown.concat (all : Shown callers phases stops) (caller : Caller) (phase : StopCall) :
    Shown (callers ++ [caller]) (phases ++ [phase]) (stops ++ [phase]) := by
  induction all with
  | nil => exact .cons (.same phase) .nil
  | cons first _ ih => exact .cons first ih

/-- The same calls are not over in the shadow. -/
theorem Shown.unfinished (all : Shown callers phases stops) :
    stops.filter (!·.isOver) = phases.filter (!·.isOver) := by
  induction all with
  | nil => rfl
  | @cons _ phase _ _ _ _ first _ ih =>
      cases done : phase.isOver with
      | true => simp [first.isOver, done, ih]
      | false => rw [first.eq_of_unfinished done, List.filter_cons, List.filter_cons, ih]

theorem Shown.length_eq (all : Shown callers phases stops) : stops.length = phases.length := by
  induction all with
  | nil => rfl
  | cons _ _ ih => rw [List.length_cons, List.length_cons, ih]

/-- The shadow of a state, in which nobody reads and the stop calls are others. -/
def State.shadow (state : State) (stops : List StopCall) : State :=
  { state with stops := stops, reader := none }

/-- The listener does the same in the shadow. -/
theorem listen_shadow (state : State) (stops : List StopCall) :
    listen setup (state.shadow stops) = (listen setup state).shadow stops := by
  have here : (state.shadow stops).listener = state.listener := rfl
  unfold listen
  rw [here]
  cases state.listener with
  | reading =>
      simp only [readFeed, Feed.read, State.shadow]
      cases Feed.ofReading state.feed.stream.read.1 <;> rfl
  | subscribing => cases setup.subscription <;> rfl
  | accepted message =>
      simp only [interpret]
      cases (noticeOfMessage setup.filter message).outcome with
      | error fault => rfl
      | ok told => cases told <;> rfl
  | putting notice =>
      have room : (state.shadow stops).hasRoom = state.hasRoom := rfl
      simp only [room]
      cases state.hasRoom <;> rfl
  | closingStream ending =>
      simp only [closeAtEnd, State.closeStream, State.shadow]
      cases (Feed.afterClosing state.feed.stream.closeFault).outcome <;> rfl
  | finishing ending =>
      have asked : (state.shadow stops).stopRequested = state.stopRequested := rfl
      unfold finish
      rw [asked]
      cases ending <;> cases state.stopRequested <;> rfl
  | reporting failure =>
      simp only [reportFailure]
      cases setup.callback <;> rfl
  | _ => rfl

/-- A stop call does the same in the shadow. -/
theorem stopStep_shadow (found : stops[call]? = some phase) :
    stopStep call phase (state.shadow stops)
      = (stopStep call phase state).shadow (stops.set call (nextStop state phase)) := by
  cases phase with
  | closingStream =>
      simp only [stopStep, closeForStop, State.closeStream, nextStop, State.shadow]
      cases (Feed.afterClosing state.feed.stream.closeFault).outcome <;> rfl
  | returned _ | raised _ =>
      obtain ⟨bound, same⟩ := List.getElem?_eq_some_iff.mp found
      have kept : stops.set call stops[call] = stops := List.set_getElem_self bound
      rw [same] at kept
      rw [nextStop, kept]
      rfl
  | _ => rfl

/-! ## The shadow of a turn -/

/-- The moves that are made in the shadow of a turn.  Nobody reads there, so that a notice which is
    read is taken. -/
def shadowMoves (attended : Attended) : Turn → List Move
  | .move .read =>
      match attended.state.reader, attended.state.channel with
      | some .polling, _ :: _ => [.take]
      | _, _ => []
  | .move .openReader | .move .closeReader => []
  | turn => turn.moves

/-- The moves in the shadow are those of the turn, but where somebody reads. -/
theorem shadowMoves_eq (attended : Attended) (turn : Turn) :
    shadowMoves attended turn = turn.moves ∨
      (∃ move, turn.moves = [move] ∧ move.isReaders = true) ∧
        (shadowMoves attended turn = [] ∨ shadowMoves attended turn = [.take]) := by
  cases turn with
  | move move =>
      cases move with
      | read =>
          refine .inr ⟨⟨.read, rfl, rfl⟩, ?_⟩
          simp only [shadowMoves]
          split
          · exact .inr rfl
          · exact .inl rfl
      | openReader => exact .inr ⟨⟨.openReader, rfl, rfl⟩, .inl rfl⟩
      | closeReader => exact .inr ⟨⟨.closeReader, rfl, rfl⟩, .inl rfl⟩
      | _ => exact .inl rfl
  | _ => exact .inl rfl

theorem run?_singleton {move : Move} {next : State} (stepped : step? setup state move = some next) :
    run? setup state [move] = some next := by
  rw [run?, stepped]
  rfl

/-- A move shows as its moves in the shadow.  Only the call whose step it is may show otherwise than
    before. -/
theorem Shown.of_move {move : Move} {moved : State}
    (all : Shown attended.callers attended.state.stops stops) (other : move ≠ .callStop)
    (stepped : step? setup attended.state move = some moved) :
    ∃ seen, Watcher.run? setup (attended.state.shadow stops) (shadowMoves attended (.move move))
        = some (moved.shadow seen) ∧
      Shown attended.callers moved.stops seen := by
  cases move with
  | callStop => exact absurd rfl other
  | listen =>
      cases stepped
      refine ⟨stops, run?_singleton (congrArg some (listen_shadow _ _)), ?_⟩
      rwa [listen_stops]
  | deliver item =>
      cases stepped
      exact ⟨stops, rfl, all⟩
  | stop call =>
      obtain ⟨phase, found, rfl⟩ := Option.map_eq_some_iff.mp stepped
      obtain ⟨shown, foundShown, shows⟩ := all.at found
      have goes : step? setup (attended.state.shadow stops) (.stop call)
          = some (stopStep call shown (attended.state.shadow stops)) := by
        rw [step?, State.shadow, foundShown]
        rfl
      cases shows with
      | same =>
          rw [stopStep_shadow foundShown] at goes
          refine ⟨_, run?_singleton goes, ?_⟩
          rw [stopStep_stops found]
          exact all.set (.same _)
      | answer | fault =>
          -- a call that is over stays as it is, here and there
          exact ⟨stops, run?_singleton goes, all⟩
  | openReader | closeReader =>
      simp only [step?] at stepped
      split at stepped <;> cases stepped
      exact ⟨stops, rfl, all⟩
  | take =>
      simp only [step?, State.take?] at stepped
      cases waiting : attended.state.channel <;> simp only [waiting] at stepped <;> cases stepped
      refine ⟨stops, run?_singleton ?_, all⟩
      simp only [step?, State.take?, State.shadow, waiting]
      rfl
  | read =>
      obtain ⟨phase, found, rfl⟩ := Option.map_eq_some_iff.mp stepped
      cases phase with
      | polling =>
          -- what the reader takes from the channel is taken by nobody in particular
          cases waiting : attended.state.channel with
          | nil =>
              simp only [shadowMoves, found, readStep, poll, State.take?, waiting]
              exact ⟨stops, rfl, all⟩
          | cons notice rest =>
              simp only [shadowMoves, found, readStep, poll, State.take?, waiting]
              refine ⟨stops, run?_singleton ?_, all⟩
              simp only [step?, State.take?, State.shadow, waiting]
              rfl
      | _ =>
          refine ⟨stops, ?_, all⟩
          simp only [shadowMoves, found]
          rfl

/-- A turn shows as its moves in the shadow. -/
theorem Shown.of_leads (all : Shown attended.callers attended.state.stops stops)
    (leads : Leads setup attended turn next) :
    ∃ seen, Watcher.run? setup (attended.state.shadow stops) (shadowMoves attended turn)
        = some (next.state.shadow seen) ∧
      Shown next.callers next.state.stops seen := by
  cases leads with
  | calls caller => exact ⟨_, rfl, all.concat caller .called⟩
  | callsUsually => exact ⟨_, rfl, all.concat .usual .called⟩
  | @waits call answer after waiting ends =>
      -- the call waits in the shadow too, and ends well there whatever comes of it here
      obtain ⟨shown, found, shows⟩ := all.at waiting
      obtain rfl := shows.eq_of_unfinished rfl
      have stepped : step? setup (attended.state.shadow stops) (.stop call)
          = some (stopStep call .waiting (attended.state.shadow stops)) := by
        rw [step?, State.shadow, found]
        rfl
      cases ends with
      | answer => exact ⟨_, run?_singleton stepped, all.set (.answer _ _)⟩
      | fault wrong => exact ⟨_, run?_singleton stepped, all.set (.fault _ wrong)⟩
  | sees polled =>
      refine ⟨stops, ?_, all⟩
      simp only [shadowMoves, polled]
      rfl
  | looks => exact ⟨stops, rfl, all⟩
  | waited ends => cases ends <;> exact ⟨stops, rfl, all⟩
  | moves other _ stepped => exact all.of_move other stepped

/-! ## The shadow of a run -/

/-- What the turns of a run show, each of them where the run has come to. -/
def Attended.history {α : Type} (sight : Attended → Turn → List α) (setup : Setup)
    (attended : Attended) : List Turn → List α
  | [] => []
  | turn :: turns =>
      match attended.step? setup turn with
      | some next => sight attended turn ++ history sight setup next turns
      | none => []

/-- What the moves of a turn show. -/
def shownBy {α : Type} (sight : State → Move → List α) (attended : Attended) (turn : Turn) : List α :=
  turn.moves.flatMap (sight attended.state)

theorem Attended.run?_cons :
    attended.run? setup (turn :: turns) = some last ↔
      ∃ next, attended.step? setup turn = some next ∧ next.run? setup turns = some last := by
  simp only [run?]
  cases attended.step? setup turn <;> simp

/-- What a run shows is what its first part shows and then what the rest shows. -/
theorem Attended.history_append {α : Type} (sight : Attended → Turn → List α) (later : List Turn)
    (ran : attended.run? setup turns = some next) :
    attended.history sight setup (turns ++ later)
      = attended.history sight setup turns ++ next.history sight setup later := by
  induction turns generalizing attended with
  | nil =>
      cases ran
      rfl
  | cons turn turns ih =>
      obtain ⟨middle, stepped, ran⟩ := run?_cons.mp ran
      simp only [List.cons_append, history, stepped, List.append_assoc, ih ran]

/-- The shadow of a run is a run. -/
theorem Shown.of_run (all : Shown attended.callers attended.state.stops stops)
    (ran : attended.run? setup turns = some last) :
    ∃ seen, Watcher.run? setup (attended.state.shadow stops)
        (attended.history shadowMoves setup turns) = some (last.state.shadow seen) ∧
      Shown last.callers last.state.stops seen := by
  induction turns generalizing attended stops with
  | nil =>
      cases ran
      exact ⟨stops, rfl, all⟩
  | cons turn turns ih =>
      obtain ⟨next, stepped, ran⟩ := Attended.run?_cons.mp ran
      obtain ⟨middle, moved, all⟩ := all.of_leads (Attended.leads_of_step? stepped)
      obtain ⟨seen, movedOn, all⟩ := ih all ran
      refine ⟨seen, ?_, all⟩
      rw [Attended.history, stepped, Watcher.run?_append, moved, Option.bind_some, movedOn]

theorem length_shadowMoves (attended : Attended) (turn : Turn) :
    (shadowMoves attended turn).length ≤ 1 := by
  rcases shadowMoves_eq attended turn with same | ⟨_, none | one⟩
  · rw [same]
    cases turn <;> simp [Turn.moves]
  · simp [none]
  · simp [one]

/-- The stop calls take the same steps in the shadow. -/
theorem countP_shadowMoves (call : Nat) (ran : attended.run? setup turns = some last) :
    (attended.history shadowMoves setup turns).countP (·.isStepOf call)
      = (turns.flatMap Turn.moves).countP (·.isStepOf call) := by
  induction turns generalizing attended with
  | nil => rfl
  | cons turn turns ih =>
      obtain ⟨next, stepped, ran⟩ := Attended.run?_cons.mp ran
      have one : (shadowMoves attended turn).countP (·.isStepOf call)
          = turn.moves.countP (·.isStepOf call) := by
        rcases shadowMoves_eq attended turn with same | ⟨⟨move, reads, own⟩, fewer⟩
        · rw [same]
        · have apart : move.isStepOf call = false := by
            cases move <;> first | rfl | cases own
          have apart' : Move.take.isStepOf call = false := rfl
          rcases fewer with none | taken
          · simp [none, reads, apart]
          · simp [taken, reads, apart, apart']
      rw [Attended.history, stepped, List.countP_append, one, ih ran, List.flatMap_cons,
        List.countP_append]

theorem history_of_short {α : Type} {sight : State → Move → List α} {moves : List Move}
    {next : State} (short : moves.length ≤ 1) (ran : run? setup state moves = some next) :
    history sight setup state moves = moves.flatMap (sight state) := by
  match moves, short with
  | [], _ => rfl
  | [move], _ =>
      obtain ⟨_, stepped, _⟩ := run?_cons.mp ran
      simp [history, stepped]

section Sight

variable {α : Type} {sight : State → Move → List α}

/-- What is the same in the shadow of a turn is the same in the shadow of a run. -/
theorem history_shadow
    (same : ∀ (attended : Attended) (stops : List StopCall) (turn : Turn),
      Shown attended.callers attended.state.stops stops →
        (shadowMoves attended turn).flatMap (sight (attended.state.shadow stops))
          = shownBy sight attended turn)
    (all : Shown attended.callers attended.state.stops stops)
    (ran : attended.run? setup turns = some last) :
    history sight setup (attended.state.shadow stops) (attended.history shadowMoves setup turns)
      = attended.history (shownBy sight) setup turns := by
  induction turns generalizing attended stops with
  | nil => rfl
  | cons turn turns ih =>
      obtain ⟨next, stepped, ran⟩ := Attended.run?_cons.mp ran
      obtain ⟨middle, moved, allNext⟩ := all.of_leads (Attended.leads_of_step? stepped)
      simp only [Attended.history, stepped]
      rw [history_append sight _ _ moved, history_of_short (length_shadowMoves _ _) moved,
        same attended stops turn all, ih allNext ran]

/-- What neither readers show nor those who take a notice is the same in the shadow of a turn if it is
    the same in the shadow of the state. -/
theorem shownBy_of_shadow (silent : ∀ state move, (move = .take ∨ move.isReaders = true) →
      sight state move = [])
    (same : ∀ move, sight (attended.state.shadow stops) move = sight attended.state move)
    (turn : Turn) :
    (shadowMoves attended turn).flatMap (sight (attended.state.shadow stops))
      = shownBy sight attended turn := by
  rcases shadowMoves_eq attended turn with moves | ⟨⟨move, reads, own⟩, none | taken⟩
  · rw [moves, shownBy]
    exact List.flatMap_congr fun move _ => same move
  · simp [shownBy, none, reads, silent _ _ (.inr own)]
  · simp [shownBy, taken, reads, silent _ _ (.inr own), silent _ _ (.inl rfl)]

end Sight

/-- The notices that are put on the channel are the same in the shadow. -/
theorem putBy_shadow (all : Shown attended.callers attended.state.stops stops)
    (ran : attended.run? setup turns = some last) :
    history putBy setup (attended.state.shadow stops) (attended.history shadowMoves setup turns)
      = attended.history (shownBy putBy) setup turns := by
  refine history_shadow (fun attended stops turn _ => ?_) all ran
  refine shownBy_of_shadow ?_ (fun move => ?_) turn
  · intro state move quiet
    refine putBy_of_ne ?_
    rintro rfl
    rcases quiet with other | other <;> cases other
  · cases move <;> rfl

/-- The payloads that are read are the same in the shadow. -/
theorem receivedBy_shadow (all : Shown attended.callers attended.state.stops stops)
    (ran : attended.run? setup turns = some last) :
    history receivedBy setup (attended.state.shadow stops) (attended.history shadowMoves setup turns)
      = attended.history (shownBy receivedBy) setup turns := by
  refine history_shadow (fun attended stops turn _ => ?_) all ran
  refine shownBy_of_shadow ?_ (fun move => ?_) turn
  · intro state move quiet
    refine receivedBy_of_ne ?_
    rintro rfl
    rcases quiet with other | other <;> cases other
  · cases move <;> rfl

/-- The calls that are overtaken are the same in the shadow. -/
theorem overtakenBy_shadow (all : Shown attended.callers attended.state.stops stops)
    (ran : attended.run? setup turns = some last) :
    history overtakenBy setup (attended.state.shadow stops)
        (attended.history shadowMoves setup turns)
      = attended.history (shownBy overtakenBy) setup turns := by
  refine history_shadow (fun attended stops turn all => ?_) all ran
  refine shownBy_of_shadow ?_ (fun move => ?_) turn
  · intro state move quiet
    rcases quiet with rfl | reads
    · rfl
    · cases move <;> first | rfl | cases reads
  · cases move with
    | callStop => exact all.unfinished
    | _ => rfl

end ContainerWatch.Watcher
