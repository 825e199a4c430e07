import ContainerWatch.Proofs.Session.Course

/-!
# How a session exits

However a session comes to its end, the client that it has connected is closed once, and what it was
handed is written down before it tells why it exits.  Its exit status tells whether it was a failure,
and it fails in three ways only, with one error in the journal: it cannot connect, it cannot open a
watcher, or its listener fails.
-/

namespace ContainerWatch.Session

open Engine Journal
open Watcher (Watch Reader StopCall)

variable {session : Session} {watch : Watch} {move : Move} {moves : List Move} {outcome : Outcome}
  {fault : Fault} {status : Nat}

/-! ## The client -/

/-- How often the client was closed at each phase: once when the session is over, if it was
    connected, and never before. -/
def Tidy (session : Session) : Prop :=
  match session.phase with
  | .connecting => session.connection = none ∧ session.clientCloses = 0
  | .done _ =>
      session.connection.isSome = true ∧ session.client.connect = .ok () ∧
          session.clientCloses = 1 ∨
        session.connection = none ∧ session.client.connect ≠ .ok () ∧ session.clientCloses = 0
  | _ => session.connection.isSome = true ∧ session.client.connect = .ok () ∧
      session.clientCloses = 0

/-- Whether a session is at a phase between connecting and its end. -/
def Phase.isUnderWay : Phase → Bool
  | connecting | done _ => false
  | _ => true

/-- A session that is under way has a client, which is open. -/
theorem tidy_iff_of_isUnderWay (underWay : session.phase.isUnderWay = true) :
    Tidy session ↔ session.connection.isSome = true ∧ session.client.connect = .ok () ∧
      session.clientCloses = 0 := by
  unfold Tidy
  cases phase : session.phase <;> simp_all [Phase.isUnderWay]

/-- A session that stays under way stays tidy if it does nothing to its client. -/
theorem tidy_of_isUnderWay {next : Session} (tidy : Tidy session)
    (before : session.phase.isUnderWay = true) (after : next.phase.isUnderWay = true)
    (connection : next.connection = session.connection) (client : next.client = session.client)
    (closes : next.clientCloses = session.clientCloses) : Tidy next := by
  rw [tidy_iff_of_isUnderWay before] at tidy
  rw [tidy_iff_of_isUnderWay after, connection, client, closes]
  exact tidy

theorem tidy_connect (tidy : Tidy session) (phase : session.phase = .connecting) :
    Tidy session.connect := by
  simp only [Tidy, phase] at tidy
  cases connected : session.client.connect with
  | ok _ =>
      simp only [connect, connected]
      exact ⟨rfl, connected, tidy.2⟩
  | error fault =>
      rw [connect_of_error connected]
      refine .inr ⟨tidy.1, ?_, tidy.2⟩
      change session.client.connect ≠ .ok ()
      rw [connected]
      simp

theorem tidy_openWatcher (tidy : Tidy session) (phase : session.phase = .opening) :
    Tidy session.openWatcher := by
  have before : session.phase.isUnderWay = true := by rw [phase]; rfl
  cases opened : (Watcher.openWith (options session.configuration)
      session.client).report.outcome with
  | ok watch =>
      simp only [openWatcher, opened]
      exact tidy_of_isUnderWay tidy before rfl rfl rfl rfl
  | error fault =>
      rw [openWatcher_of_error opened]
      exact tidy_of_isUnderWay tidy before rfl rfl rfl rfl

theorem tidy_consume (tidy : Tidy session) (before : session.phase.isUnderWay = true)
    (watch : Watch) : Tidy (session.consume watch) := by
  unfold consume
  split
  · exact tidy
  · exact tidy_of_isUnderWay tidy before rfl rfl rfl rfl
  · exact tidy_of_isUnderWay tidy before rfl rfl rfl rfl
  · exact tidy

theorem tidy_pursueStop (tidy : Tidy session) (before : session.phase.isUnderWay = true)
    (watch : Watch) (call : Nat) : Tidy (session.pursueStop watch call) := by
  unfold pursueStop
  split
  · exact tidy_of_isUnderWay tidy before rfl rfl rfl rfl
  · exact tidy_of_isUnderWay tidy before rfl rfl rfl rfl
  · exact tidy

theorem tidy_leave (tidy : Tidy session) (phase : session.phase = .leaving outcome) :
    Tidy (session.leave outcome) := by
  simp only [Tidy, phase] at tidy
  obtain ⟨connection, connected, unclosed⟩ := tidy
  rw [leave_eq]
  exact .inl ⟨connection, connected, congrArg (· + 1) unclosed⟩

theorem tidy_advance (tidy : Tidy session) : Tidy session.advance := by
  unfold advance
  split
  · next _ phase => exact tidy_connect tidy phase
  · next _ phase => exact tidy_openWatcher tidy phase
  · next watch phase _ => exact tidy_consume tidy (by rw [phase]; rfl) watch
  · next watch phase _ =>
      exact tidy_of_isUnderWay tidy (by rw [phase]; rfl) rfl rfl rfl rfl
  · next call watch phase _ => exact tidy_pursueStop tidy (by rw [phase]; rfl) watch call
  · next outcome _ phase => exact tidy_leave tidy phase
  · exact tidy

theorem tidy_step (tidy : Tidy session) (move : Move) : Tidy (session.step move) := by
  have moved : ∀ move, Tidy (session.watcherMoves move) := by
    intro move
    unfold watcherMoves
    split <;> exact tidy
  cases move with
  | advance => exact tidy_advance tidy
  | listen => exact moved .listen
  | deliver item => exact moved (.deliver item)
  | interrupt =>
      simp only [step, interrupt]
      split
      · next watch phase found =>
          split
          · exact tidy_of_isUnderWay tidy (by rw [phase]; rfl) rfl rfl rfl rfl
          · exact tidy
      · exact tidy
  | straggle =>
      simp only [step, straggle]
      split
      · split <;> exact tidy
      · exact tidy

/-! ## What does not change -/

theorem step_fixed (session : Session) (move : Move) :
    (session.step move).configuration = session.configuration ∧
      (session.step move).client = session.client := by
  have moved : ∀ move, (session.watcherMoves move).configuration = session.configuration ∧
      (session.watcherMoves move).client = session.client := by
    intro move
    unfold watcherMoves
    split <;> exact ⟨rfl, rfl⟩
  cases move with
  | advance =>
      simp only [step, advance]
      split
      · unfold connect
        (repeat' split) <;> exact ⟨rfl, rfl⟩
      · simp only [openWatcher]
        (repeat' split) <;> exact ⟨rfl, rfl⟩
      · unfold consume
        split <;> exact ⟨rfl, rfl⟩
      · exact ⟨rfl, rfl⟩
      · unfold pursueStop
        split <;> exact ⟨rfl, rfl⟩
      · rw [leave_eq]
        exact ⟨rfl, rfl⟩
      · exact ⟨rfl, rfl⟩
  | listen => exact moved .listen
  | deliver item => exact moved (.deliver item)
  | interrupt | straggle =>
      simp only [step, interrupt, straggle]
      (repeat' split) <;> exact ⟨rfl, rfl⟩

theorem run_fixed (session : Session) (moves : List Move) :
    (session.run moves).configuration = session.configuration ∧
      (session.run moves).client = session.client := by
  refine run_induction (motive := fun _ state =>
    state.configuration = session.configuration ∧ state.client = session.client) ⟨rfl, rfl⟩ ?_ moves
  rintro before state move ⟨configuration, client⟩ rfl
  rw [(step_fixed _ move).1, (step_fixed _ move).2]
  exact ⟨configuration, client⟩

theorem run_of_done (phase : session.phase = .done outcome) (absent : session.watch = none)
    (moves : List Move) : session.run moves = session ∧ yielded session moves = [] := by
  have stays : ∀ move, session.step move = session ∧ yieldedBy session move = [] := by
    intro move
    cases move <;> simp [step, advance, watcherMoves, interrupt, straggle, yieldedBy, phase, absent]
  refine run_induction (motive := fun moves state =>
    state = session ∧ yielded session moves = []) ⟨rfl, rfl⟩ ?_ moves
  rintro before state move ⟨rfl, nothing⟩ same
  rw [yielded_snoc, nothing, ← same, (stays move).1, (stays move).2]
  exact ⟨rfl, rfl⟩

/-! ## Why a session exits -/

/-- Connecting ends in a fault of collecting. -/
def ConnectingFails (client : Client) : Prop :=
  ∃ fault, client.connect = .error fault ∧ fault.kind.isCollecting = true

/-- The client connects, and opening a watcher ends in a fault of an unusable setting or of
    collecting. -/
def OpeningFails (configuration : Configuration) (client : Client) : Prop :=
  client.connect = .ok () ∧
    ∃ fault, (Watcher.openWith (options configuration) client).report.outcome = .error fault ∧
      (fault.kind.isSetting || fault.kind.isCollecting) = true

/-- The reader ended in the failure of the listener. -/
def ReadingFails (session : Session) : Prop :=
  ∃ watch reason cause, session.watch = some watch ∧
    watch.state.reader = some (.raised (.listening (.text reason) cause))

/-- The reader found that there are no more notices. -/
def ReadingEnds (session : Session) : Prop :=
  ∃ watch, session.watch = some watch ∧ watch.state.reader = some .ended

/-- The session was interrupted, and asking the listener to stop came to its end. -/
def StopReturns (session : Session) : Prop :=
  ∃ watch exited, session.watch = some watch ∧ watch.state.stops = [.returned exited]

/-- What the exit status of a session tells, and how many errors the program itself has written. -/
structure StatusTells (configuration : Configuration) (client : Client) (last : Session)
    (status : Nat) : Prop where
  failure : status = 1 ↔
    ConnectingFails client ∨ OpeningFails configuration client ∨ ReadingFails last
  success : status = 0 ↔ ReadingEnds last ∨ StopReturns last
  errors : (ownEntries last.journal).countP (·.level == .error) = status

/-- What a session writes last on its own: what it could not do, how its listener failed, that it was
    interrupted, or nothing. -/
inductive Farewell (configuration : Configuration) (hostname : String) (client : Client)
    (last : Session) : List Entry → Prop
  | unset {fault : Fault}
      (refused : bareLogbook.setUp configuration.logFormat configuration.logLevel hostname
        = .error fault) : Farewell configuration hostname client last []
  | unconnected {fault : Fault} (refused : client.connect = .error fault) :
      Farewell configuration hostname client last (afterConnecting fault).1
  | unopened {fault : Fault} (connected : client.connect = .ok ())
      (refused : (Watcher.openWith (options configuration) client).report.outcome = .error fault) :
      Farewell configuration hostname client last (afterOpening fault).1
  | ended {watch : Watch} (found : last.watch = some watch)
      (reader : watch.state.reader = some .ended) (unasked : watch.state.stops = []) :
      Farewell configuration hostname client last []
  | failed {watch : Watch} {failure : Fault} (found : last.watch = some watch)
      (reader : watch.state.reader = some (.raised failure)) (unasked : watch.state.stops = []) :
      Farewell configuration hostname client last [failureEntry failure]
  | interrupted {watch : Watch} (found : last.watch = some watch)
      (asked : watch.state.stops ≠ []) :
      Farewell configuration hostname client last [interruptEntry]

/-- Notices that a watcher opened for a session had on its channel, in the order in which they came
    there, from the first one on and without a gap. -/
def InChannelOrder (configuration : Configuration) (client : Client) (watch : Watch)
    (notices : List Notice) : Prop :=
  ∃ opened moves, (Watcher.openWith (options configuration) client).report.outcome = .ok opened ∧
    Watcher.run? opened.setup opened.state moves = some watch.state ∧
    notices ++ watch.state.channel
      = opened.state.channel ++ Watcher.history Watcher.putBy opened.setup opened.state moves

section Ways

variable {configuration : Configuration} {hostname : String} {client : Client} {last : Session}
  {handed lost : List Notice} {farewell : List Entry} {reader : Option Reader}
  {stops : List StopCall}

theorem inChannelOrder_of_reached (reached : Reached configuration client watch) :
    InChannelOrder configuration client watch watch.state.taken := by
  obtain ⟨opened, moves, outcome, _, ran⟩ := reached
  obtain ⟨_, snapshot, _, _, _, _, _, fresh⟩ := Watcher.openWith_eq_ok outcome
  refine ⟨opened, moves, outcome, ran, ?_⟩
  have balanced := Watcher.balanced_of_run ran
  have untouched : opened.state.taken = [] := by
    rw [fresh]
    rfl
  rw [balanced, untouched, List.nil_append]

/-- The failure in which a reader ends is one of listening. -/
theorem listening_of_reached {failure : Fault} (reached : Reached configuration client watch)
    (raised : watch.state.reader = some (.raised failure)) :
    ∃ reason cause, failure = .listening (.text reason) cause := by
  obtain ⟨opened, moves, outcome, _, ran⟩ := reached
  have informed := Watcher.informed_of_run outcome ran
  simp only [Watcher.Informed, raised] at informed
  have lawful := Watcher.lawful_of_run outcome ran
  exact (Watcher.recorded_of_lawful lawful informed.1).1

theorem handled_of_afterFault {handled : Bool} {what : String}
    (exits : (afterFault handled what fault).2 = .ok status) : handled = true ∧ status = 1 := by
  unfold afterFault at exits
  cases handled with
  | true => exact ⟨rfl, (Except.ok.inj exits).symm⟩
  | false => cases exits

theorem errors_afterFault {handled : Bool} (what : String) (fault : Fault)
    (treated : handled = true) :
    (afterFault handled what fault).1.countP (·.level == .error) = 1 := by
  subst treated
  rfl

theorem errors_notices (handed farewell : List Entry) (notices : List Notice)
    (written : handed = notices.map noticeEntry ++ farewell) :
    handed.countP (·.level == .error) = farewell.countP (·.level == .error) := by
  have none : (notices.map noticeEntry).countP (·.level == .error) = 0 := by
    rw [List.countP_eq_zero]
    intro entry member
    obtain ⟨notice, _, rfl⟩ := List.mem_map.mp member
    nofun
  rw [written, List.countP_append, none, Nat.zero_add]

/-- A session that exits with a status has closed its client, and the status is that which it had
    before. -/
theorem eq_ok_of_closing (exits : closing client outcome = .ok status) :
    outcome = .ok status := by
  unfold closing at exits
  split at exits
  · exact exits
  · cases exits

/-- What the status tells of a session that could not come to read: it is that of a failure, which was
    handled. -/
theorem statusTells_of_refused {handled : Bool} {what : String} (absent : last.watch = none)
    (fails : handled = true → ConnectingFails client ∨ OpeningFails configuration client)
    (written : ownEntries last.journal = (afterFault handled what fault).1)
    (exits : (afterFault handled what fault).2 = .ok status) :
    StatusTells configuration client last status := by
  obtain ⟨treated, rfl⟩ := handled_of_afterFault exits
  refine ⟨iff_of_true rfl ?_, iff_of_false nofun ?_, ?_⟩
  · rcases fails treated with unconnected | unopened
    · exact .inl unconnected
    · exact .inr (.inl unopened)
  · rintro (⟨watch, found, _⟩ | ⟨watch, _, found, _⟩) <;> simp [absent] at found
  · rw [written]
    exact errors_afterFault _ _ treated

theorem readingFails_iff (found : last.watch = some watch) :
    ReadingFails last ↔ ∃ reason cause,
      watch.state.reader = some (.raised (.listening (.text reason) cause)) := by
  simp [ReadingFails, found]

theorem readingEnds_iff (found : last.watch = some watch) :
    ReadingEnds last ↔ watch.state.reader = some .ended := by
  simp [ReadingEnds, found]

theorem stopReturns_iff (found : last.watch = some watch) :
    StopReturns last ↔ ∃ exited, watch.state.stops = [.returned exited] := by
  simp [StopReturns, found]

/-- A session that has come to read has neither failed to connect nor to open a watcher. -/
theorem not_refused_of_reached (connected : client.connect = .ok ())
    (reached : Reached configuration client watch) :
    ¬ConnectingFails client ∧ ¬OpeningFails configuration client := by
  constructor
  · rintro ⟨fault, refused, _⟩
    rw [connected] at refused
    cases refused
  · rintro ⟨_, fault, refused, _⟩
    obtain ⟨opened, _, outcome, _⟩ := reached
    rw [outcome] at refused
    cases refused

/-- What the status tells of how the reader and the stop call came to their end, and how many errors
    are the last entry. -/
theorem status_of_exit (exits : Exit reader stops lost farewell (.ok status)) :
    (status = 1 ↔ ∃ failure, reader = some (.raised failure)) ∧
    (status = 0 ↔ reader = some .ended ∨ ∃ exited, stops = [.returned exited]) ∧
    farewell.countP (·.level == .error) = status := by
  cases exits with
  | ended => exact ⟨iff_of_false nofun nofun, iff_of_true rfl (.inl rfl), rfl⟩
  | failed failure =>
      refine ⟨iff_of_true rfl ⟨failure, rfl⟩, iff_of_false nofun ?_, rfl⟩
      rintro (ended | ⟨exited, returned⟩)
      · cases ended
      · cases returned
  | returned exited givenUp =>
      refine ⟨iff_of_false nofun ?_, iff_of_true rfl (.inr ⟨exited, rfl⟩), rfl⟩
      rintro ⟨failure, rfl⟩
      cases givenUp

/-- What the status tells of a session that has read notices. -/
theorem statusTells_of_exit (found : last.watch = some watch) (connected : client.connect = .ok ())
    (reached : Reached configuration client watch)
    (written : ownEntries last.journal = handed.map noticeEntry ++ farewell)
    (exits : Exit watch.state.reader watch.state.stops lost farewell (.ok status)) :
    StatusTells configuration client last status := by
  obtain ⟨connects, opens⟩ := not_refused_of_reached connected reached
  obtain ⟨failure, success, errors⟩ := status_of_exit exits
  refine ⟨?_, ?_, ?_⟩
  · rw [or_iff_right connects, or_iff_right opens, readingFails_iff found, failure]
    constructor
    · rintro ⟨fault, raised⟩
      obtain ⟨reason, cause, rfl⟩ := listening_of_reached reached raised
      exact ⟨reason, cause, raised⟩
    · rintro ⟨reason, cause, raised⟩
      exact ⟨_, raised⟩
  · rw [readingEnds_iff found, stopReturns_iff found]
    exact success
  · rw [errors_notices _ _ _ written]
    exact errors

/-- What a session that has read notices writes last. -/
theorem farewell_of_exit (found : last.watch = some watch)
    (exits : Exit watch.state.reader watch.state.stops lost farewell outcome) :
    Farewell configuration hostname client last farewell ∧ lost.length ≤ 1 ∧
      (watch.state.stops = [] → lost = []) := by
  have few : ∀ {reader}, GivenUp reader lost → lost.length ≤ 1 := by
    intro reader givenUp
    cases givenUp <;> simp
  generalize reading : watch.state.reader = reader at exits
  generalize calls : watch.state.stops = stops at exits
  cases exits with
  | ended => exact ⟨.ended found reading calls, Nat.zero_le 1, fun _ => rfl⟩
  | failed failure => exact ⟨.failed found reading calls, Nat.zero_le 1, fun _ => rfl⟩
  | returned exited givenUp =>
      exact ⟨.interrupted found (by rw [calls]; nofun), few givenUp, nofun⟩
  | raised fault givenUp =>
      exact ⟨.interrupted found (by rw [calls]; nofun), few givenUp, nofun⟩

/-! ## However a session ends -/

theorem phase_of_outcome (finished : session.outcome? = some outcome) : session.phase = .done outcome := by
  unfold outcome? at finished
  split at finished
  · next ending => rw [ending, Option.some.inj finished]
  · cases finished

theorem tidy_of_run (tidy : Tidy session) (moves : List Move) : Tidy (session.run moves) := by
  refine run_induction (motive := fun _ state => Tidy state) tidy ?_ moves
  rintro before state move tidy -
  exact tidy_step tidy move

/-- A tidy session that is over has closed its client once if it has connected it. -/
theorem closes_of_tidy (tidy : Tidy session) (phase : session.phase = .done outcome) :
    session.clientCloses = (if session.connection.isSome then 1 else 0) ∧
      (session.connection.isSome = true ↔ session.client.connect = .ok ()) := by
  simp only [Tidy, phase] at tidy
  rcases tidy with ⟨connection, connected, closes⟩ | ⟨connection, refused, closes⟩
  · rw [if_pos connection]
    exact ⟨closes, iff_of_true connection connected⟩
  · rw [connection]
    exact ⟨closes, iff_of_false nofun refused⟩

/-- What a session has written on its own when it is over, what it was handed, and what its exit
    status tells. -/
theorem exit_of_course (course : Course last handed) (phase : last.phase = .done outcome)
    (configured : last.configuration = configuration) (connects : last.client = client) :
    (∃ farewell, Farewell configuration hostname client last farewell ∧
      ownEntries last.journal = handed.map noticeEntry ++ farewell) ∧
    (last.watch = none → handed = []) ∧
    (∀ watch, last.watch = some watch → ∃ lost,
      InChannelOrder configuration client watch (handed ++ lost) ∧
      lost.length ≤ 1 ∧ (watch.state.stops = [] → lost = [])) ∧
    ∀ status, outcome = .ok status → StatusTells configuration client last status := by
  subst configured connects
  cases course with
  | unwatched absent nothing stands =>
      rw [phase] at stands
      subst nothing
      cases stands with
      | unconnected refused written =>
          refine ⟨⟨_, .unconnected refused, written⟩, fun _ => rfl, ?_, ?_⟩
          · intro watch found
            simp [absent] at found
          · intro status exits
            refine statusTells_of_refused absent (fun handled => ?_) written exits
            exact .inl ⟨_, refused, handled⟩
      | done connected refused written =>
          refine ⟨⟨_, .unopened connected refused, written⟩, fun _ => rfl, ?_, ?_⟩
          · intro watch found
            simp [absent] at found
          · intro status exits
            refine statusTells_of_refused absent (fun handled => ?_) written (eq_ok_of_closing exits)
            exact .inr ⟨connected, _, refused, handled⟩
  | @watched watch lost found connected reached taken stands =>
      rw [phase] at stands
      cases stands with
      | @done farewell first exits written =>
          obtain ⟨told, few, unlost⟩ :
              Farewell last.configuration hostname last.client last farewell ∧ lost.length ≤ 1 ∧
                (watch.state.stops = [] → lost = []) := farewell_of_exit found exits
          refine ⟨⟨farewell, told, written⟩, ?_, ?_, ?_⟩
          · intro absent
            simp [found] at absent
          · intro other present
            obtain rfl : watch = other := by simpa [found] using present
            have inOrder := inChannelOrder_of_reached reached
            rw [taken] at inOrder
            exact ⟨lost, inOrder, few, unlost⟩
          · intro status closed
            have exited := eq_ok_of_closing closed
            subst exited
            exact statusTells_of_exit found connected reached written exits

/-- What becomes of a session that is started: if it cannot set up its logbook, it is over and does
    nothing; else it is tidy and keeps to its course, wherever its run has come to. -/
theorem course_of_start (configuration : Configuration) (hostname : String) (client : Client)
    (moves : List Move) :
    (∃ fault, bareLogbook.setUp configuration.logFormat configuration.logLevel hostname
        = .error fault ∧
      (start configuration hostname client).run moves = start configuration hostname client ∧
      (start configuration hostname client).phase = .done (.error fault) ∧
      yielded (start configuration hostname client) moves = []) ∨
    ∃ logbook, bareLogbook.setUp configuration.logFormat configuration.logLevel hostname
        = .ok logbook ∧
      Tidy ((start configuration hostname client).run moves) ∧
      Course ((start configuration hostname client).run moves)
        (yielded (start configuration hostname client) moves) := by
  cases setUp : bareLogbook.setUp configuration.logFormat configuration.logLevel hostname with
  | error fault =>
      have ended : (start configuration hostname client).phase = .done (.error fault) := by
        simp [start, setUp]
      obtain ⟨same, nothing⟩ := run_of_done ended rfl moves
      exact .inl ⟨fault, rfl, same, ended, nothing⟩
  | ok logbook =>
      have begun : (start configuration hostname client).phase = .connecting := by
        simp [start, setUp]
      have untouched : Tidy (start configuration hostname client) := by
        rw [Tidy, begun]
        exact ⟨rfl, rfl⟩
      have course := course_of_run (course_of_connecting rfl rfl begun) moves
      exact .inr ⟨logbook, rfl, tidy_of_run untouched moves, course⟩

/-- However a session ends, whatever its settings, its client, the engine's messages and the moment of
    an interrupt.  The client was closed once if it was connected, and never otherwise, also where
    the session ends in a fault.  The notices that the reader has handed out were written down once
    each and in their order, and after them comes at most one entry, which tells why the session
    ends.  They are those of the channel, in its order and without a gap; only a read that an
    interrupt gave up has taken one more, which is lost.  Where the session ends with an exit status,
    that is 1 exactly if connecting or opening failed or the listener did, with one error in the
    journal, and 0 exactly if the reader came to its end or the session was interrupted and its stop
    returned, with none. -/
theorem exit_of_session
    (ran : (start configuration hostname client).run moves = last)
    (finished : last.outcome? = some outcome) :
    last.clientCloses = (if last.connection.isSome then 1 else 0) ∧
    (last.connection.isSome = true ↔
      (∃ logbook, bareLogbook.setUp configuration.logFormat configuration.logLevel hostname
        = .ok logbook) ∧ client.connect = .ok ()) ∧
    (∃ farewell, Farewell configuration hostname client last farewell ∧
      ownEntries last.journal
        = (yielded (start configuration hostname client) moves).map noticeEntry ++ farewell) ∧
    (last.watch = none → yielded (start configuration hostname client) moves = []) ∧
    (∀ watch, last.watch = some watch → ∃ lost,
      InChannelOrder configuration client watch
        (yielded (start configuration hostname client) moves ++ lost) ∧
      lost.length ≤ 1 ∧ (watch.state.stops = [] → lost = [])) ∧
    ∀ status, outcome = .ok status → StatusTells configuration client last status := by
  have phase := phase_of_outcome finished
  subst ran
  rcases course_of_start configuration hostname client moves with
    ⟨fault, refused, same, ended, nothing⟩ | ⟨logbook, setUp, tidy, course⟩
  · rw [same, ended] at phase
    cases phase
    rw [same, nothing]
    refine ⟨rfl, ?_, ⟨[], .unset refused, rfl⟩, fun _ => rfl, ?_, ?_⟩
    · refine iff_of_false nofun ?_
      rintro ⟨⟨logbook, setUp⟩, _⟩
      rw [refused] at setUp
      cases setUp
    · intro watch found
      cases found
    · intro status exits
      cases exits
  · obtain ⟨configured, connects⟩ := run_fixed (start configuration hostname client) moves
    obtain ⟨closes, created⟩ := closes_of_tidy tidy phase
    rw [connects] at created
    refine ⟨closes, ?_, exit_of_course course phase configured connects⟩
    rw [created]
    exact (and_iff_right ⟨logbook, setUp⟩).symm

end Ways

/-- A session in which two notices are read, and the feed comes to its end. -/
def exampleMoves : List Move :=
  List.replicate 4 .advance ++ List.replicate 18 .listen ++ List.replicate 8 .advance

/-- A session that is interrupted while it waits for a second notice, and stops its listener. -/
def interruptedMoves : List Move :=
  List.replicate 4 .advance ++ [.interrupt] ++ List.replicate 3 .advance
    ++ List.replicate 12 .listen ++ List.replicate 3 .advance

set_option maxRecDepth 4000 in
/-- The first session exits with the status of a failure, which it has told in one error behind two
    notices.  The second one exits well behind one notice, for its stop has returned.  Both have closed
    their client once. -/
theorem exit_of_example :
    (∃ last, (start {} "host" Watcher.exampleClient).run exampleMoves = last ∧
      last.outcome? = some (.ok 1) ∧ last.clientCloses = 1 ∧
      (yielded (start {} "host" Watcher.exampleClient) exampleMoves).length = 2 ∧
      StatusTells {} Watcher.exampleClient last 1) ∧
    ∃ last, (start {} "host" Watcher.exampleClient).run interruptedMoves = last ∧
      last.outcome? = some (.ok 0) ∧ last.clientCloses = 1 ∧
      (yielded (start {} "host" Watcher.exampleClient) interruptedMoves).length = 1 ∧
      StopReturns last ∧ StatusTells {} Watcher.exampleClient last 0 := by
  constructor
  · obtain ⟨last, ran, finished, closes, handed⟩ :
        ∃ last, (start {} "host" Watcher.exampleClient).run exampleMoves = last ∧
          last.outcome? = some (.ok 1) ∧ last.clientCloses = 1 ∧
          (yielded (start {} "host" Watcher.exampleClient) exampleMoves).length = 2 :=
      ⟨_, rfl, rfl, rfl, rfl⟩
    obtain ⟨_, _, _, _, _, tells⟩ := exit_of_session ran finished
    exact ⟨last, ran, finished, closes, handed, tells 1 rfl⟩
  · obtain ⟨last, ran, finished, closes, handed, stopped⟩ :
        ∃ last, (start {} "host" Watcher.exampleClient).run interruptedMoves = last ∧
          last.outcome? = some (.ok 0) ∧ last.clientCloses = 1 ∧
          (yielded (start {} "host" Watcher.exampleClient) interruptedMoves).length = 1 ∧
          StopReturns last :=
      ⟨_, rfl, rfl, rfl, rfl, _, true, rfl, rfl⟩
    obtain ⟨_, _, _, _, _, tells⟩ := exit_of_session ran finished
    exact ⟨last, ran, finished, closes, handed, stopped, tells 0 rfl⟩

end ContainerWatch.Session
