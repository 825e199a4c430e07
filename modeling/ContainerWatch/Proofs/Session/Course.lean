import ContainerWatch.Proofs.Session.Entries
import ContainerWatch.Proofs.Watcher.Closing
import ContainerWatch.Proofs.Watcher.Reading

/-!
# The course of a session

A session goes through its phases in one direction.  At each of them it is known what its reader and
its stop call have come to, and what the program itself has written: an entry for each notice that it
was handed, in their order, and at the end at most one more, which tells why it exits.
-/

namespace ContainerWatch.Session

open Engine Journal
open Watcher (Watch Reader StopCall)

/-! ## The watcher of a session -/

/-- A watcher that was opened for a session, wherever its run has come to. -/
def Reached (configuration : Configuration) (client : Client) (watch : Watch) : Prop :=
  ∃ opened moves, (Watcher.openWith (options configuration) client).report.outcome = .ok opened ∧
    watch.setup = opened.setup ∧
    Watcher.run? opened.setup opened.state moves = some watch.state

section Watcher

variable {configuration : Configuration} {client : Client} {watch : Watch}

theorem Reached.move (reached : Reached configuration client watch) (move : Watcher.Move) :
    Reached configuration client (watch.move move) := by
  obtain ⟨opened, moves, outcome, same, ran⟩ := reached
  cases stepped : Watcher.step? watch.setup watch.state move with
  | none =>
      refine ⟨opened, moves, outcome, same, ?_⟩
      simpa [Watch.move, Watcher.step, stepped] using ran
  | some next =>
      refine ⟨opened, moves ++ [move], outcome, same, ?_⟩
      rw [Watcher.run?_snoc]
      refine ⟨watch.state, ran, ?_⟩
      rw [← same]
      simp [Watch.move, Watcher.step, stepped]

/-- What a move of the watcher adds to its journal is not written under the name of the program. -/
theorem journal_move_foreign (watch : Watch) (move : Watcher.Move) :
    ∀ entry ∈ (watch.move move).state.journal.drop watch.state.journal.length,
      entry.IsForeign := by
  intro entry member
  cases stepped : Watcher.step? watch.setup watch.state move with
  | none => simp [Watch.move, Watcher.step, stepped] at member
  | some next =>
      have moved : (watch.move move).state = next := by simp [Watch.move, Watcher.step, stepped]
      rw [moved, Watcher.journal_of_step? stepped, List.drop_left] at member
      exact Watcher.entriesBy_foreign entry member

theorem move_read {phase : Reader} (found : watch.state.reader = some phase) :
    (watch.move .read).state = Watcher.readStep phase watch.state := by
  simp [Watch.move, Watcher.step, Watcher.step?, found]

theorem move_read_stops (watch : Watch) : (watch.move .read).state.stops = watch.state.stops := by
  cases found : watch.state.reader with
  | none => simp [Watch.move, Watcher.step, Watcher.step?, found]
  | some phase =>
      rw [move_read found]
      cases phase with
      | polling =>
          simp only [Watcher.readStep, Watcher.poll, Watcher.State.take?]
          cases watch.state.channel <;> rfl
      | _ => rfl

theorem move_read_isSome {phase : Reader} (found : watch.state.reader = some phase) :
    (watch.move .read).state.reader.isSome = true := by
  rw [move_read found]
  cases phase with
  | polling =>
      simp only [Watcher.readStep, Watcher.poll, Watcher.State.take?]
      cases watch.state.channel <;> rfl
  | ended | raised failure => simp [Watcher.readStep, found]
  | _ => rfl

/-- What a reader hands out with its step has been taken. -/
theorem move_read_taken (watch : Watch) :
    (watch.move .read).state.taken
      = watch.state.taken ++ Watcher.handedBy watch.state .read := by
  cases stepped : Watcher.step? watch.setup watch.state .read with
  | none =>
      have absent : watch.state.reader = none := by simpa [Watcher.step?] using stepped
      simp [Watch.move, Watcher.step, stepped, Watcher.handedBy, absent]
  | some next =>
      have moved : (watch.move .read).state = next := by simp [Watch.move, Watcher.step, stepped]
      rw [moved, Watcher.taken_of_step? stepped]

/-- A stop call that takes a step goes on, and nothing happens to the reader. -/
theorem move_stop {call : Nat} {phase : StopCall} (found : watch.state.stops[call]? = some phase) :
    (watch.move (.stop call)).state.stops
        = watch.state.stops.set call (Watcher.nextStop watch.state phase) ∧
      (watch.move (.stop call)).state.reader = watch.state.reader ∧
      (watch.move (.stop call)).state.taken = watch.state.taken := by
  have moved : (watch.move (.stop call)).state = Watcher.stopStep call phase watch.state := by
    simp [Watch.move, Watcher.step, Watcher.step?, found]
  rw [moved]
  obtain ⟨journal, eq⟩ := Watcher.stopStep_eq found
  rw [eq]
  exact ⟨rfl, rfl, rfl⟩

end Watcher

/-! ## What a session is handed -/

variable {session : Session} {watch : Watch} {move : Move} {moves : List Move}

/-- The notice that the reader hands to the program with a move. -/
def yieldedBy (session : Session) : Move → List Notice
  | .advance =>
      match session.phase, session.watch with
      | .consuming, some watch => Watcher.handedBy watch.state .read
      | _, _ => []
  | _ => []

/-- The notices that the reader hands to the program in a run, in their order. -/
def yielded (session : Session) : List Move → List Notice
  | [] => []
  | move :: moves => yieldedBy session move ++ yielded (session.step move) moves

theorem run_snoc (session : Session) (moves : List Move) (move : Move) :
    session.run (moves ++ [move]) = (session.run moves).step move := by
  simp [run]

theorem yielded_snoc (session : Session) (moves : List Move) (move : Move) :
    yielded session (moves ++ [move])
      = yielded session moves ++ yieldedBy (session.run moves) move := by
  induction moves generalizing session with
  | nil => simp [yielded, run]
  | cons first moves ih =>
      simp only [List.cons_append, yielded, ih, List.append_assoc]
      rfl

/-- What a session keeps move by move holds wherever its run has come to. -/
theorem run_induction {motive : List Move → Session → Prop} (start : motive [] session)
    (kept : ∀ before state move, motive before state → state = session.run before →
      motive (before ++ [move]) (state.step move)) (moves : List Move) :
    motive moves (session.run moves) := by
  induction moves using List.reverseRecOn with
  | nil => exact start
  | append_singleton before move ih =>
      rw [run_snoc]
      exact kept before (session.run before) move ih rfl

/-! ## What the program does on its own -/

/-- What follows a fault: if it is handled, an entry that tells of it and the exit status of a
    failure, and otherwise nothing but the fault itself. -/
def afterFault (handled : Bool) (what : String) (fault : Fault) : List Entry × Outcome :=
  if handled then ([.plain .error .command (what ++ fault.text)], .ok 1) else ([], .error fault)

/-- What follows a fault of connecting. -/
def afterConnecting (fault : Fault) : List Entry × Outcome :=
  afterFault fault.kind.isCollecting "Failed to connect to docker: " fault

/-- What follows a fault of opening a watcher. -/
def afterOpening (fault : Fault) : List Entry × Outcome :=
  afterFault (fault.kind.isSetting || fault.kind.isCollecting) "Failed to create event notifier: "
    fault

/-- The entry that tells of an interrupt. -/
def interruptEntry : Entry := .plain .info .command "Interrupted, shutting down"

/-- The entry that tells of a failure of the listener. -/
def failureEntry (failure : Fault) : Entry :=
  .plain .error .command ("Exiting, " ++ failure.text)

/-- What becomes of an outcome when the client is closed. -/
def closing (client : Client) (outcome : Outcome) : Outcome :=
  match client.close.outcome with
  | .ok () => outcome
  | .error fault => .error fault

/-! ## Where a session stands -/

/-- The notice that a reader has handed out and not been asked to go on from. -/
def pending : Option Reader → List Notice
  | some (.yielded notice) => [notice]
  | _ => []

/-- A reader that is given up, and the notice that it has taken since. -/
inductive GivenUp : Option Reader → List Notice → Prop
  | ended : GivenUp (some .ended) []
  | polling : GivenUp (some .polling) []
  | timedOut : GivenUp (some .timedOut) []
  | yielded (notice : Notice) : GivenUp (some (.yielded notice)) [notice]

/-- How a session comes to leave that has a watcher, by what its reader and its stop call have come
    to: the notices that it has lost, its last entry, and its outcome. -/
inductive Exit : Option Reader → List StopCall → List Notice → List Entry → Outcome → Prop
  | ended : Exit (some .ended) [] [] [] (.ok 0)
  | failed (failure : Fault) :
      Exit (some (.raised failure)) [] [] [failureEntry failure] (.ok 1)
  | returned {reader : Option Reader} {lost : List Notice} (exited : Bool)
      (givenUp : GivenUp reader lost) :
      Exit reader [.returned exited] lost [interruptEntry] (.ok 0)
  | raised {reader : Option Reader} {lost : List Notice} (fault : Fault)
      (givenUp : GivenUp reader lost) :
      Exit reader [.raised fault] lost [interruptEntry] (.error fault)

/-- What a session has written on its own at each phase in which it has a watcher, and what its
    reader and its stop call have come to. -/
inductive Stands (client : Client) (reader : Option Reader) (stops : List StopCall)
    (handed lost : List Notice) (own : List Entry) : Phase → Prop
  | consuming {phase : Reader} (opened : reader = some phase) (unasked : stops = [])
      (kept : lost = [])
      (written : own ++ (pending reader).map noticeEntry = handed.map noticeEntry) :
      Stands client reader stops handed lost own .consuming
  | interrupted (givenUp : GivenUp reader lost) (unasked : stops = [])
      (written : own = handed.map noticeEntry) :
      Stands client reader stops handed lost own .interrupted
  | stopping {call : StopCall} (givenUp : GivenUp reader lost) (asked : stops = [call])
      (written : own = handed.map noticeEntry ++ [interruptEntry]) :
      Stands client reader stops handed lost own (.stopping 0)
  | leaving {farewell : List Entry} {outcome : Outcome}
      (exits : Exit reader stops lost farewell outcome)
      (written : own = handed.map noticeEntry ++ farewell) :
      Stands client reader stops handed lost own (.leaving outcome)
  | done {farewell : List Entry} {outcome : Outcome}
      (exits : Exit reader stops lost farewell outcome)
      (written : own = handed.map noticeEntry ++ farewell) :
      Stands client reader stops handed lost own (.done (closing client outcome))

/-- What a session has written on its own at each phase in which it has no watcher. -/
inductive Unwatched (configuration : Configuration) (client : Client) (own : List Entry) :
    Phase → Prop
  | connecting (silent : own = []) : Unwatched configuration client own .connecting
  | opening (connected : client.connect = .ok ()) (silent : own = []) :
      Unwatched configuration client own .opening
  | unconnected {fault : Fault} (refused : client.connect = .error fault)
      (written : own = (afterConnecting fault).1) :
      Unwatched configuration client own (.done (afterConnecting fault).2)
  | leaving {fault : Fault} (connected : client.connect = .ok ())
      (refused : (Watcher.openWith (options configuration) client).report.outcome = .error fault)
      (written : own = (afterOpening fault).1) :
      Unwatched configuration client own (.leaving (afterOpening fault).2)
  | done {fault : Fault} (connected : client.connect = .ok ())
      (refused : (Watcher.openWith (options configuration) client).report.outcome = .error fault)
      (written : own = (afterOpening fault).1) :
      Unwatched configuration client own (.done (closing client (afterOpening fault).2))

/-- The course of a session that was handed some notices. -/
inductive Course (session : Session) (handed : List Notice) : Prop
  | unwatched (absent : session.watch = none) (nothing : handed = [])
      (stands : Unwatched session.configuration session.client (ownEntries session.journal)
        session.phase)
  | watched {watch : Watch} {lost : List Notice} (found : session.watch = some watch)
      (connected : session.client.connect = .ok ())
      (reached : Reached session.configuration session.client watch)
      (taken : watch.state.taken = handed ++ lost)
      (stands : Stands session.client watch.state.reader watch.state.stops handed lost
        (ownEntries session.journal) session.phase)

/-! ## What each step keeps -/

section Keeps

variable {handed lost : List Notice} {outcome : Outcome}

theorem moveWatch_ownEntries (session : Session) (watch : Watch) (move : Watcher.Move) :
    ownEntries (session.moveWatch watch move).journal = ownEntries session.journal :=
  ownEntries_of_foreign (journal_move_foreign watch move)

theorem note_ownEntries (session : Session) (level : Level) (message : String) :
    ownEntries (session.note level message).journal
      = ownEntries session.journal ++ [.plain level .command message] :=
  ownEntries_append ..

/-- A session whose watcher moves while neither its reader nor a stop call does stands where it
    stood. -/
theorem Course.watcherMoves (course : Course session handed) {move : Watcher.Move}
    (reader : ∀ watch : Watch, (watch.move move).state.reader = watch.state.reader)
    (stops : ∀ watch : Watch, (watch.move move).state.stops = watch.state.stops)
    (kept : ∀ watch : Watch, (watch.move move).state.taken = watch.state.taken) :
    Course (session.watcherMoves move) handed := by
  cases course with
  | unwatched absent nothing stands =>
      simp only [Session.watcherMoves, absent]
      exact .unwatched absent nothing stands
  | @watched watch lost found connected reached taken stands =>
      simp only [Session.watcherMoves, found]
      refine .watched rfl connected (reached.move move) ((kept watch).trans taken) ?_
      rw [moveWatch_ownEntries, reader watch, stops watch]
      exact stands

/-- The course of a session that has a watcher. -/
theorem Course.watched_of_some (course : Course session handed)
    (found : session.watch = some watch) :
    ∃ lost, session.client.connect = .ok () ∧
      Reached session.configuration session.client watch ∧
      watch.state.taken = handed ++ lost ∧
      Stands session.client watch.state.reader watch.state.stops handed lost
        (ownEntries session.journal) session.phase := by
  cases course with
  | unwatched absent => simp [absent] at found
  | @watched other lost present connected reached taken stands =>
      obtain rfl : other = watch := by simpa [present] using found
      exact ⟨lost, connected, reached, taken, stands⟩

/-- A reader that heeds an interrupt has nothing in its hands. -/
theorem givenUp_of_heedsInterrupt {reader : Option Reader} (heeds : heedsInterrupt reader = true) :
    GivenUp reader [] ∧ pending reader = [] := by
  cases reader with
  | none => cases heeds
  | some phase =>
      cases phase with
      | polling => exact ⟨.polling, rfl⟩
      | ended => exact ⟨.ended, rfl⟩
      | _ => cases heeds

theorem Course.interrupt (course : Course session handed) : Course session.interrupt handed := by
  cases found : session.watch with
  | none => simpa [Session.interrupt, found] using course
  | some watch =>
      cases phase : session.phase with
      | consuming =>
          simp only [Session.interrupt, phase, found]
          split
          · next heeds =>
              obtain ⟨lost, connected, reached, taken, stands⟩ := course.watched_of_some found
              rw [phase] at stands
              cases stands with
              | consuming opened unasked kept written =>
                  obtain ⟨givenUp, idle⟩ := givenUp_of_heedsInterrupt heeds
                  subst kept
                  rw [idle, List.map_nil, List.append_nil] at written
                  exact .watched found connected reached taken (.interrupted givenUp unasked written)
          · exact course
      | _ => simpa [Session.interrupt, phase] using course

theorem pending_move_read (watch : Watch) :
    pending (watch.move .read).state.reader = Watcher.handedBy watch.state .read := by
  cases found : watch.state.reader with
  | none => simp [Watch.move, Watcher.step, Watcher.step?, Watcher.handedBy, found, pending]
  | some phase =>
      rw [move_read found]
      cases phase with
      | polling =>
          simp only [Watcher.readStep, Watcher.poll, Watcher.State.take?, Watcher.handedBy, found]
          cases watch.state.channel <;> rfl
      | judged failure finished =>
          simp only [Watcher.readStep, Watcher.handedBy, found]
          split
          · cases failure <;> cases finished <;> rfl
          · rfl
      | ended | raised failure => simp [Watcher.readStep, Watcher.handedBy, found, pending]
      | _ => simp only [Watcher.handedBy, found]; rfl

/-- A read that is given up takes at most one more notice. -/
theorem givenUp_move_read (polling : watch.state.reader = some .polling) :
    GivenUp (watch.move .read).state.reader (Watcher.handedBy watch.state .read) := by
  rw [move_read polling]
  simp only [Watcher.readStep, Watcher.poll, Watcher.State.take?, Watcher.handedBy, polling]
  cases watch.state.channel with
  | nil => exact .timedOut
  | cons notice rest => exact .yielded notice

/-- The read that is given up comes to its end. -/
theorem Course.straggle (course : Course session handed) : Course session.straggle handed := by
  cases found : session.watch with
  | none => simpa [Session.straggle, found] using course
  | some watch =>
      cases phase : session.phase with
      | interrupted =>
          simp only [Session.straggle, phase, found]
          cases reading : watch.state.reader with
          | none => exact course
          | some reader =>
              cases reader with
              | polling =>
                  simp only [isPolling, if_true]
                  obtain ⟨lost, connected, reached, taken, stands⟩ :=
                    course.watched_of_some found
                  rw [phase, reading] at stands
                  cases stands with
                  | interrupted givenUp unasked written =>
                      cases givenUp
                      rw [List.append_nil] at taken
                      have later := move_read_taken watch
                      rw [taken] at later
                      refine .watched rfl connected (reached.move .read) later ?_
                      rw [moveWatch_ownEntries, move_read_stops,
                        show (session.moveWatch watch .read).phase = .interrupted from phase]
                      exact .interrupted (givenUp_move_read reading) unasked written
              | _ => exact course
      | _ => simpa [Session.straggle, phase] using course

/-! ## The steps of the program -/

theorem ownEntries_afterFault (handled : Bool) (what : String) (fault : Fault) :
    ownEntries (afterFault handled what fault).1 = (afterFault handled what fault).1 := by
  unfold afterFault
  cases handled <;> rfl

theorem connect_of_error {fault : Fault} (refused : session.client.connect = .error fault) :
    session.connect
      = (session.write (afterConnecting fault).1).inPhase (.done (afterConnecting fault).2) := by
  simp only [connect, refused, afterConnecting, afterFault]
  split
  · rfl
  · simp [write]

/-- A session that cannot open a watcher goes to leave. -/
theorem openWatcher_of_error {fault : Fault}
    (refused : (Watcher.openWith (options session.configuration) session.client).report.outcome
      = .error fault) :
    session.openWatcher
      = (session.write
          ((Watcher.openWith (options session.configuration) session.client).report.entries
            ++ (afterOpening fault).1)).inPhase (.leaving (afterOpening fault).2) := by
  simp only [openWatcher, refused, afterOpening, afterFault]
  split
  · simp [write, note, inPhase]
  · simp [write]

theorem leave_eq (session : Session) (outcome : Outcome) :
    session.leave outcome
      = ({ session with clientCloses := session.clientCloses + 1 }.write
          session.client.close.entries).inPhase (.done (closing session.client outcome)) := by
  simp only [leave, closing]
  cases session.client.close.outcome <;> rfl

theorem Course.connect (course : Course session handed) (phase : session.phase = .connecting) :
    Course session.connect handed := by
  cases course with
  | watched found connected reached taken stands =>
      rw [phase] at stands
      cases stands
  | unwatched absent nothing stands =>
      rw [phase] at stands
      cases stands with
      | connecting silent =>
          cases connected : session.client.connect with
          | ok _ =>
              simp only [Session.connect, connected]
              exact .unwatched absent nothing (.opening connected silent)
          | error fault =>
              rw [connect_of_error connected]
              refine .unwatched absent nothing (.unconnected connected ?_)
              have own := ownEntries_append session.journal (afterConnecting fault).1
              rw [silent, afterConnecting, ownEntries_afterFault] at own
              exact own

theorem Course.openWatcher (course : Course session handed) (phase : session.phase = .opening) :
    Course session.openWatcher handed := by
  cases course with
  | watched found connected reached taken stands =>
      rw [phase] at stands
      cases stands
  | unwatched absent nothing stands =>
      rw [phase] at stands
      cases stands with
      | opening connected silent =>
          have foreign := Watcher.openWith_foreign (options session.configuration) session.client
          cases opened : (Watcher.openWith (options session.configuration)
              session.client).report.outcome with
          | ok watch =>
              simp only [Session.openWatcher, opened]
              obtain ⟨_, snapshot, _, _, _, _, _, fresh⟩ := Watcher.openWith_eq_ok opened
              have reached : Reached session.configuration session.client watch :=
                ⟨watch, [], opened, rfl, rfl⟩
              have begun : (watch.move .openReader).state = watch.state.readerAt .polling := by
                rw [Watch.move, fresh]
                rfl
              have taken : (watch.move .openReader).state.taken = handed ++ [] := by
                rw [begun, fresh, nothing]
                rfl
              refine .watched rfl connected (reached.move .openReader) taken ?_
              rw [begun]
              refine .consuming rfl ?_ rfl ?_
              · rw [fresh]
                rfl
              · have own : ownEntries (session.journal ++ _) = _ := ownEntries_of_foreign foreign
                rw [silent] at own
                rw [nothing]
                exact congrArg (· ++ []) own
          | error fault =>
              rw [openWatcher_of_error opened]
              refine .unwatched absent nothing (.leaving connected opened ?_)
              have own : ownEntries (session.journal ++ _) = _ := ownEntries_of_foreign foreign
              change ownEntries (session.journal ++ (_ ++ _)) = _
              rw [← List.append_assoc, ownEntries_append, own, silent, afterOpening,
                ownEntries_afterFault]
              rfl

/-- A reader that goes on where nothing is in its hands. -/
theorem course_read {reader : Reader} (connected : session.client.connect = .ok ())
    (reached : Reached session.configuration session.client watch)
    (phase : session.phase = .consuming) (reading : watch.state.reader = some reader)
    (unasked : watch.state.stops = []) (taken : watch.state.taken = handed ++ [])
    (written : ownEntries session.journal = handed.map noticeEntry) :
    Course (session.moveWatch watch .read) (handed ++ Watcher.handedBy watch.state .read) := by
  have later : (watch.move .read).state.taken
      = handed ++ Watcher.handedBy watch.state .read ++ [] := by
    rw [move_read_taken, taken, List.append_nil, List.append_nil]
  refine .watched rfl connected (reached.move .read) later ?_
  obtain ⟨next, going⟩ := Option.isSome_iff_exists.mp (move_read_isSome reading)
  rw [moveWatch_ownEntries, move_read_stops,
    show (session.moveWatch watch .read).phase = .consuming from phase]
  refine .consuming going unasked rfl ?_
  rw [pending_move_read, written, List.map_append]

theorem Course.consume (course : Course session handed) (phase : session.phase = .consuming)
    (found : session.watch = some watch) :
    Course (session.consume watch) (handed ++ Watcher.handedBy watch.state .read) := by
  obtain ⟨lost, connected, reached, taken, stands⟩ := course.watched_of_some found
  rw [phase] at stands
  cases stands with
  | @consuming reader opened unasked kept written =>
      subst kept
      rw [opened] at written
      cases reader with
      | yielded notice =>
          simp only [Session.consume, opened]
          have own := ownEntries_append session.journal [noticeEntry notice]
          rw [show ownEntries [noticeEntry notice] = [noticeEntry notice] from rfl] at own
          apply course_read
          · exact connected
          · exact reached
          · exact phase
          · exact opened
          · exact unasked
          · exact taken
          · exact own.trans written
      | ended =>
          simp only [Session.consume, opened]
          have nothing : Watcher.handedBy watch.state .read = [] := by
            simp [Watcher.handedBy, opened]
          rw [nothing, List.append_nil]
          refine .watched found connected reached taken ?_
          rw [opened, unasked]
          refine .leaving .ended ?_
          simp only [pending, List.map_nil, List.append_nil] at written ⊢
          exact written
      | raised failure =>
          simp only [Session.consume, opened]
          have nothing : Watcher.handedBy watch.state .read = [] := by
            simp [Watcher.handedBy, opened]
          rw [nothing, List.append_nil]
          refine .watched found connected reached taken ?_
          rw [opened, unasked]
          refine .leaving (.failed failure) ?_
          rw [← written]
          simp only [pending, List.map_nil, List.append_nil]
          exact note_ownEntries session .error ("Exiting, " ++ failure.text)
      | _ =>
          simp only [Session.consume, opened]
          simp only [pending, List.map_nil, List.append_nil] at written
          exact course_read connected reached phase opened unasked taken written

theorem Course.shutDown (course : Course session handed) (phase : session.phase = .interrupted)
    (found : session.watch = some watch) : Course (session.shutDown watch) handed := by
  obtain ⟨lost, connected, reached, taken, stands⟩ := course.watched_of_some found
  rw [phase] at stands
  cases stands with
  | interrupted givenUp unasked written =>
      have asked : (watch.move .callStop).state.stops = [.called] := by
        change watch.state.stops ++ [_] = _
        rw [unasked]
        rfl
      refine .watched rfl connected (reached.move .callStop) taken ?_
      rw [asked]
      change Stands _ _ _ _ _ _ (.stopping watch.state.stops.length)
      rw [unasked]
      refine .stopping givenUp rfl ?_
      have own := moveWatch_ownEntries (session.note .info "Interrupted, shutting down") watch
        .callStop
      rw [note_ownEntries, written] at own
      exact own

theorem Course.pursueStop {call : Nat} (course : Course session handed)
    (phase : session.phase = .stopping call) (found : session.watch = some watch) :
    Course (session.pursueStop watch call) handed := by
  obtain ⟨lost, connected, reached, taken, stands⟩ := course.watched_of_some found
  rw [phase] at stands
  cases stands with
  | @stopping first givenUp asked written =>
      have calling : watch.state.stops[0]? = some first := by rw [asked]; rfl
      simp only [Session.pursueStop, calling]
      cases first with
      | returned exited =>
          refine .watched found connected reached taken ?_
          rw [asked]
          exact .leaving (.returned exited givenUp) written
      | raised fault =>
          refine .watched found connected reached taken ?_
          rw [asked]
          exact .leaving (.raised fault givenUp) written
      | _ =>
          obtain ⟨stops, reader, kept⟩ := move_stop calling
          rw [asked] at stops
          refine .watched rfl connected (reached.move (.stop 0)) (kept.trans taken) ?_
          rw [moveWatch_ownEntries, reader, stops,
            show (session.moveWatch watch (.stop 0)).phase = .stopping 0 from phase]
          exact .stopping givenUp rfl written

theorem Course.leave (course : Course session handed) (phase : session.phase = .leaving outcome) :
    Course (session.leave outcome) handed := by
  rw [leave_eq]
  have own : ownEntries (session.journal ++ session.client.close.entries)
      = ownEntries session.journal := ownEntries_of_foreign session.client.close_foreign
  cases course with
  | unwatched absent nothing stands =>
      rw [phase] at stands
      cases stands with
      | leaving connected refused written =>
          refine .unwatched absent nothing ?_
          exact .done connected refused (own.trans written)
  | watched found connected reached taken stands =>
      rw [phase] at stands
      cases stands with
      | leaving exits written =>
          refine .watched found connected reached taken ?_
          exact .done exits (own.trans written)

theorem Course.advance (course : Course session handed) :
    Course session.advance (handed ++ yieldedBy session .advance) := by
  cases phase : session.phase with
  | connecting =>
      simpa [Session.advance, yieldedBy, phase] using course.connect phase
  | opening =>
      simpa [Session.advance, yieldedBy, phase] using course.openWatcher phase
  | leaving outcome =>
      simpa [Session.advance, yieldedBy, phase] using course.leave phase
  | done outcome =>
      simpa [Session.advance, yieldedBy, phase] using course
  | consuming =>
      cases found : session.watch with
      | none => simpa [Session.advance, yieldedBy, phase, found] using course
      | some watch =>
          simpa [Session.advance, yieldedBy, phase, found] using course.consume phase found
  | interrupted =>
      cases found : session.watch with
      | none => simpa [Session.advance, yieldedBy, phase, found] using course
      | some watch =>
          simpa [Session.advance, yieldedBy, phase, found] using course.shutDown phase found
  | stopping call =>
      cases found : session.watch with
      | none => simpa [Session.advance, yieldedBy, phase, found] using course
      | some watch =>
          simpa [Session.advance, yieldedBy, phase, found] using course.pursueStop phase found

theorem Course.step (course : Course session handed) (move : Move) :
    Course (session.step move) (handed ++ yieldedBy session move) := by
  cases move with
  | advance => exact course.advance
  | listen =>
      simp only [yieldedBy, List.append_nil]
      refine course.watcherMoves ?_ ?_ ?_
      · intro watch
        exact Watcher.listen_reader ..
      · intro watch
        exact Watcher.listen_stops ..
      · intro watch
        exact Watcher.listen_taken ..
  | deliver item =>
      simp only [yieldedBy, List.append_nil]
      exact course.watcherMoves (fun _ => rfl) (fun _ => rfl) (fun _ => rfl)
  | interrupt =>
      simp only [yieldedBy, List.append_nil]
      exact course.interrupt
  | straggle =>
      simp only [yieldedBy, List.append_nil]
      exact course.straggle

end Keeps

/-! ## Whole runs -/

/-- A session that has not begun is on its course. -/
theorem course_of_connecting (absent : session.watch = none) (silent : session.journal = [])
    (phase : session.phase = .connecting) : Course session [] := by
  refine .unwatched absent rfl ?_
  rw [phase]
  refine .connecting ?_
  rw [silent]
  rfl

/-- A session stays on its course wherever its run comes to. -/
theorem course_of_run (course : Course session []) (moves : List Move) :
    Course (session.run moves) (yielded session moves) := by
  refine run_induction (motive := fun moves state => Course state (yielded session moves)) course ?_
    moves
  rintro before state move course rfl
  rw [yielded_snoc]
  exact course.step move

end ContainerWatch.Session
