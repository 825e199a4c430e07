import ContainerWatch.Proofs.Configuration
import ContainerWatch.Proofs.NameFilter.Rejections
import ContainerWatch.Proofs.Session.Construction
import ContainerWatch.Proofs.Session.Exits

/-!
# Sessions with a rejected pattern

A session whose opening fails is over after three steps of its own, whatever else happens between them.
So a pattern that is rejected for its form is told in an error, and the session exits with the status of
a failure; any other rejection is the end of the session, and nothing is written about it.
-/

namespace ContainerWatch.Session

open Engine Journal
open NameFilter (TextSettings Rejects)

/-! ## Sessions that cannot open a watcher -/

/-- Whether a move is a step of the program itself. -/
def Move.isAdvance : Move → Bool
  | advance => true
  | _ => false

/-- How many steps of its own a session that gets no watcher is away from its end. -/
def Phase.stepsLeft : Phase → Nat
  | connecting => 3
  | opening => 2
  | leaving _ => 1
  | _ => 0

section Unopened

variable {configuration : Configuration} {hostname : String} {client : Client} {session : Session}
  {fault : Fault} {moves : List Move}

/-- Without a watcher nothing happens but what the program does itself. -/
theorem Unopened.step_of_not_isAdvance (unopened : Unopened configuration client session) {move : Move}
    (other : move.isAdvance = false) : session.step move = session := by
  cases move with
  | advance => cases other
  | listen | deliver item => simp only [Session.step, watcherMoves, unopened.watch]
  | interrupt | straggle =>
      simp only [Session.step, interrupt, straggle, unopened.watch]
      split <;> first | rfl | contradiction

theorem Unopened.stepsLeft_advance (unopened : Unopened configuration client session)
    (failed : (Watcher.openWith (options configuration) client).report.outcome = .error fault) :
    session.advance.phase.stepsLeft ≤ session.phase.stepsLeft - 1 := by
  obtain ⟨rfl, rfl, absent⟩ := unopened
  cases phase : session.phase with
  | connecting =>
      simp only [Session.advance, phase]
      cases connected : session.client.connect with
      | ok => simp [connect, connected, inPhase, Phase.stepsLeft]
      | error => simp [connect_of_error connected, inPhase, Phase.stepsLeft]
  | opening => simp [Session.advance, phase, openWatcher_of_error failed, inPhase, Phase.stepsLeft]
  | leaving outcome => simp [Session.advance, phase, leave_eq, inPhase, Phase.stepsLeft]
  | _ => simp [Session.advance, phase, absent, Phase.stepsLeft]

/-- A session whose opening fails has at most as many steps left as it has not taken of three. -/
theorem stepsLeft_run
    (failed : (Watcher.openWith (options configuration) client).report.outcome = .error fault) :
    ((start configuration hostname client).run moves).phase.stepsLeft
      ≤ 3 - moves.countP Move.isAdvance := by
  refine run_induction
    (motive := fun moves state => state.phase.stepsLeft ≤ 3 - moves.countP Move.isAdvance) ?_ ?_ moves
  · simp only [start]
    split <;> simp [Phase.stepsLeft]
  · rintro before state move near rfl
    have unopened := unopened_of_run failed hostname before
    rw [List.countP_append, List.countP_singleton]
    by_cases own : move.isAdvance = true
    · have nearer := unopened.stepsLeft_advance failed
      have same : move = .advance := by cases move <;> first | rfl | cases own
      rw [same] at own ⊢
      rw [if_pos own]
      exact nearer.trans (by omega)
    · rw [unopened.step_of_not_isAdvance (Bool.not_eq_true _ ▸ own), if_neg own]
      exact near

/-- A session that gets as far as opening a watcher, and then takes the steps that it needs if that
    fails; its client can be closed. -/
structure TriesToOpen (configuration : Configuration) (hostname : String) (client : Client)
    (moves : List Move) : Prop where
  setUp : ∃ logbook, bareLogbook.setUp configuration.logFormat configuration.logLevel hostname
    = .ok logbook
  connected : client.connect = .ok ()
  closed : client.close.outcome = .ok ()
  steps : 3 ≤ moves.countP Move.isAdvance

/-- A session that cannot open a watcher is over, and has written nothing on its own but what tells of
    the fault. -/
theorem TriesToOpen.ends (tries : TriesToOpen configuration hostname client moves)
    (failed : (Watcher.openWith (options configuration) client).report.outcome = .error fault) :
    ownEntries ((start configuration hostname client).run moves).journal = (afterOpening fault).1 ∧
      ((start configuration hostname client).run moves).outcome? = some (afterOpening fault).2 := by
  obtain ⟨⟨logbook, setUp⟩, connected, closed, steps⟩ := tries
  have spent : ((start configuration hostname client).run moves).phase.stepsLeft = 0 := by
    have few : ((start configuration hostname client).run moves).phase.stepsLeft
        ≤ 3 - moves.countP Move.isAdvance := stepsLeft_run failed
    omega
  have unopened := unopened_of_run failed hostname moves
  rcases course_of_start configuration hostname client moves with
    ⟨_, refused, -⟩ | ⟨_, -, -, course⟩
  · cases setUp.symm.trans refused
  · generalize (start configuration hostname client).run moves = last at *
    obtain ⟨rfl, rfl, absent⟩ := unopened
    cases course with
    | watched found => cases absent.symm.trans found
    | unwatched absent nothing stands =>
        generalize phase : last.phase = phase at *
        cases stands with
        | connecting | opening | leaving => cases spent
        | unconnected refused => cases connected.symm.trans refused
        | done _ failed' written =>
            cases failed.symm.trans failed'
            refine ⟨written, ?_⟩
            simp [outcome?, phase, closing, closed]

end Unopened

/-! ## Rejected patterns -/

/-- A session that is over, has told of a fault in an error and exits with the status of a failure. -/
structure ExitsFor (last : Session) (fault : Fault) : Prop where
  told : ownEntries last.journal
    = [.plain .error .command ("Failed to create event notifier: " ++ fault.text)]
  exits : last.outcome? = some (.ok 1)

/-- A session that ends in a fault, of which it has told nothing. -/
structure EndsIn (last : Session) (fault : Fault) : Prop where
  silent : ownEntries last.journal = []
  ends : last.outcome? = some (.error fault)

section Rejected

variable {configuration : Configuration} {hostname : String} {client : Client} {moves : List Move}
  {fault : Fault} {rule : Rule} {source : String} {error : Pattern.Error}

/-- A watcher whose filter cannot be made cannot be opened either; but that its channel would have no
    room is found first. -/
theorem openWith_of_ofSettings
    (failed : NameFilter.ofSettings configuration.filterSettings = .error fault) (client : Client) :
    (Watcher.openWith (options configuration) client).report.outcome
      = .error (if configuration.bufferSize < 1 then Watcher.sizeFault configuration.bufferSize
          else fault) := by
  have unprepared : (Watcher.prepare (options configuration)).outcome
      = .error (if configuration.bufferSize < 1 then Watcher.sizeFault configuration.bufferSize
          else fault) := by
    simp only [Watcher.prepare, options, failed]
    split <;> rfl
  rw [Watcher.openWith_of_fault unprepared]

/-- A session exits for the fault of a setting. -/
theorem TriesToOpen.exitsFor (tries : TriesToOpen configuration hostname client moves)
    (failed : (Watcher.openWith (options configuration) client).report.outcome = .error fault)
    (setting : fault.kind.isSetting = true) :
    ExitsFor ((start configuration hostname client).run moves) fault := by
  obtain ⟨told, exits⟩ := tries.ends failed
  simp only [afterOpening, afterFault, setting, Bool.true_or, if_true] at told exits
  exact ⟨told, exits⟩

/-- A session ends in a fault that is none of a setting and none of collecting. -/
theorem TriesToOpen.endsIn (tries : TriesToOpen configuration hostname client moves)
    (failed : (Watcher.openWith (options configuration) client).report.outcome = .error fault)
    (other : (fault.kind.isSetting || fault.kind.isCollecting) = false) :
    EndsIn ((start configuration hostname client).run moves) fault := by
  obtain ⟨silent, ends⟩ := tries.ends failed
  simp only [afterOpening, afterFault, other, Bool.false_eq_true, if_false] at silent ends
  exact ⟨silent, ends⟩

/-- A session with a pattern that is rejected for its form exits for the fault of a setting, which is
    that of the pattern if the channel would have room. -/
theorem TriesToOpen.exitsFor_of_rejects (tries : TriesToOpen configuration hostname client moves)
    (rejects : Rejects configuration.texts rule source error)
    (malformed : error.cause.isMalformed = true) :
    ∃ fault, ExitsFor ((start configuration hostname client).run moves) fault ∧
      (1 ≤ configuration.bufferSize → fault = NameFilter.malformedSetting rule source error) := by
  have made := NameFilter.ofSettings_of_rejects rejects
  rw [Configuration.settings_texts, NameFilter.rejectionFault, if_pos malformed] at made
  have failed := openWith_of_ofSettings made client
  refine ⟨_, tries.exitsFor failed ?_, fun room => if_neg (Int.not_lt.mpr room)⟩
  split <;> rfl

/-- A session with a pattern that is rejected for another reason ends in the fault of the rejection, if
    the channel would have room. -/
theorem TriesToOpen.endsIn_of_rejects (tries : TriesToOpen configuration hostname client moves)
    (rejects : Rejects configuration.texts rule source error)
    (other : error.cause.isMalformed = false) (room : 1 ≤ configuration.bufferSize) :
    EndsIn ((start configuration hostname client).run moves) (error.fault source) := by
  have made := NameFilter.ofSettings_of_rejects rejects
  rw [Configuration.settings_texts, NameFilter.rejectionFault,
    if_neg (Bool.eq_false_iff.mp other)] at made
  have failed := openWith_of_ofSettings made client
  rw [if_neg (Int.not_lt.mpr room)] at failed
  refine tries.endsIn failed ?_
  have kind : (error.fault source).kind = error.cause.kind := rfl
  rcases Pattern.Cause.kind_of_not_isMalformed other with same | same | same <;>
    simp [kind, same, FaultKind.isSetting, FaultKind.isCollecting]

end Rejected

/-- A configuration with two malformed patterns. -/
def malformedConfiguration : Configuration := { includesPattern := "(", excludesPattern := "[" }

/-- A configuration with a pattern that counts farther than can be counted. -/
def countingConfiguration : Configuration := { includesPattern := "a\x7b4294967295\x7d" }

/-- The rejection of that pattern. -/
def countRejection : Pattern.Error := ⟨.repetitionTooLarge, none⟩

theorem rejects_counting :
    Rejects countingConfiguration.texts .includesPattern countingConfiguration.includesPattern
      countRejection := by
  have rejected : Pattern.compile countingConfiguration.includesPattern = .error countRejection := by
    cbv
  exact .includesPattern rejected

/-- Any session in which nothing is said about the logbook gets as far as opening a watcher. -/
theorem triesToOpen_of_three {configuration : Configuration} (format : configuration.logFormat = "json")
    (level : configuration.logLevel = "INFO") :
    TriesToOpen configuration "host" Watcher.exampleClient (List.replicate 3 .advance) := by
  refine ⟨?_, rfl, rfl, by decide⟩
  rw [format, level]
  exact ⟨_, rfl⟩

end ContainerWatch.Session
