import ContainerWatch.Proofs.Watcher.Conservation

/-!
# What follows a stop

Once a stop is requested the listener goes on only with what it held when it last looked: a notice
that it goes to put on the channel, or a message that it goes to tell.  It may still read one
payload, which it drops at its next look.
-/

namespace ContainerWatch.Watcher

open Engine Journal Sighting

variable {setup : Setup} {first state next last : State} {move : Move} {moves : List Move}

/-! ## The journal -/

/-- The entry that announces a new notice. -/
def announcement (notice : Notice) : Entry := .plain .info .watcher ("new event " ++ notice.quoted)

/-- Whether an entry announces a new notice. -/
def isAnnouncement (entry : Entry) : Bool :=
  entry.part == .watcher && "new event ".toList.isPrefixOf entry.message.toList

/-- The entries of a journal that announce new notices. -/
def announcements (journal : List Entry) : List Entry := journal.filter isAnnouncement

/-- The messages that a move tells. -/
def translatedBy (state : State) : Move → List Message
  | .listen =>
      match state.listener with
      | .accepted message => [message]
      | _ => []
  | _ => []

/-- The notices that a move announces. -/
def announcedBy (setup : Setup) (state : State) : Move → List Notice
  | .listen =>
      match state.listener with
      | .accepted message =>
          match (noticeOfMessage setup.filter message).outcome with
          | .ok (some notice) => [notice]
          | _ => []
      | _ => []
  | _ => []

theorem translatedBy_of_ne (other : move ≠ .listen) : translatedBy state move = [] := by
  cases move <;> first | rfl | exact absurd rfl other

theorem announcedBy_of_ne (other : move ≠ .listen) : announcedBy setup state move = [] := by
  cases move <;> first | rfl | exact absurd rfl other

/-- The entries that a step of the listener writes. -/
def writtenBy (setup : Setup) (state : State) : List Entry :=
  match state.listener with
  | .accepted message =>
      (noticeOfMessage setup.filter message).entries
        ++ (announcedBy setup state .listen).map announcement
  | .closingStream _ => (Feed.afterClosing state.feed.stream.closeFault).entries
  | .finishing ending =>
      match ending, state.stopRequested with
      | .finished, true => [.plain .info .watcher "Event listener stopped"]
      | .failed fault, true =>
          [.plain .debug .watcher ("Event listener stopped while reading: " ++ fault.text)]
      | _, false => []
  | .recording reason _ => [.plain .error .watcher ("Event listener failed: " ++ reason)]
  | .reporting _ =>
      match setup.callback with
      | .raises fault =>
          [⟨.error, .watcher, "Error in failure callback: " ++ fault.text, [], some fault⟩]
      | _ => []
  | _ => []

theorem listen_journal (setup : Setup) (state : State) :
    (listen setup state).journal = state.journal ++ writtenBy setup state := by
  unfold listen writtenBy
  cases phase : state.listener with
  | reading =>
      simp only [readFeed, Feed.read]
      cases Feed.ofReading state.feed.stream.read.1 <;> simp [State.listenerAt]
  | subscribing => cases setup.subscription <;> simp [State.listenerAt]
  | accepted message =>
      simp only [interpret, announcedBy, phase]
      cases (noticeOfMessage setup.filter message).outcome with
      | error fault => simp [State.listenerAt, State.write]
      | ok told =>
          cases told <;> simp [State.listenerAt, State.note, State.write, announcement]
  | putting notice => cases state.hasRoom <;> simp [State.listenerAt, State.put]
  | closingStream ending =>
      simp only [closeAtEnd, State.closeStream]
      cases (Feed.afterClosing state.feed.stream.closeFault).outcome <;>
        simp [State.listenerAt, State.write]
  | finishing ending =>
      cases ending <;> cases stopping : state.stopRequested <;>
        simp [finish, State.listenerAt, State.note, State.write, stopping]
  | reporting failure =>
      simp only [reportFailure]
      cases setup.callback <;> simp [State.listenerAt, State.write]
  | _ => simp [recordFailure, State.markClosed, State.listenerAt, State.note, State.write]

/-- The entries that a move writes. -/
def entriesBy (setup : Setup) (state : State) : Move → List Entry
  | .listen => writtenBy setup state
  | .stop call =>
      match state.stops[call]? with
      | some .closingStream => (Feed.afterClosing state.feed.stream.closeFault).entries
      | _ => []
  | .callStop => [.plain .info .watcher "Stopping event listener..."]
  | _ => []

theorem journal_of_step? (stepped : step? setup state move = some next) :
    next.journal = state.journal ++ entriesBy setup state move := by
  cases move with
  | listen =>
      cases stepped
      exact listen_journal setup state
  | stop call =>
      obtain ⟨phase, found, rfl⟩ := Option.map_eq_some_iff.mp stepped
      simp only [entriesBy, found]
      cases phase with
      | closingStream =>
          simp only [stopStep, closeForStop, State.closeStream]
          cases (Feed.afterClosing state.feed.stream.closeFault).outcome <;> rfl
      | _ => exact (List.append_nil _).symm
  | read =>
      obtain ⟨phase, found, rfl⟩ := Option.map_eq_some_iff.mp stepped
      cases phase with
      | polling =>
          simp only [readStep, poll, State.take?]
          cases state.channel <;> exact (List.append_nil _).symm
      | _ => exact (List.append_nil _).symm
  | take =>
      simp only [step?, State.take?] at stepped
      cases waiting : state.channel <;> simp only [waiting] at stepped <;> cases stepped
      exact (List.append_nil _).symm
  | openReader | closeReader =>
      simp only [step?] at stepped
      split at stepped <;> cases stepped
      exact (List.append_nil _).symm
  | callStop =>
      cases stepped
      rfl
  | deliver item =>
      cases stepped
      exact (List.append_nil _).symm

theorem isAnnouncement_announcement (notice : Notice) :
    isAnnouncement (announcement notice) = true := by
  simp [isAnnouncement, announcement, Entry.plain]

/-- A message that begins with another letter announces nothing. -/
theorem isAnnouncement_eq_false {entry : Entry} (other : entry.message.toList.head? ≠ some 'n') :
    isAnnouncement entry = false := by
  unfold isAnnouncement
  cases letters : entry.message.toList with
  | nil => simp
  | cons c rest =>
      rw [letters, List.head?_cons, ne_eq, Option.some.injEq] at other
      simp [List.isPrefixOf, Ne.symm other]

theorem noticeOfMessage_announces_nothing (filter : NameFilter) (message : Message) :
    (noticeOfMessage filter message).All (isAnnouncement · = false) := by
  refine noticeOfMessage_all ?_ ?_ ?_ filter message
  · intro message
    exact isAnnouncement_eq_false (by simp [Entry.plain])
  · intro image
    rfl
  · intro name fields
    exact isAnnouncement_eq_false (by simp)

/-- What is written about the closing of the stream: at most that it ended in a fault. -/
theorem afterClosing_all {property : Entry → Prop}
    (noted : ∀ text,
      property (.plain .debug .engine ("Error closing docker event stream: " ++ text)))
    (fault : Option Fault) : (Feed.afterClosing fault).All property := by
  unfold Feed.afterClosing
  split
  · exact nofun
  · split
    · exact Report.all_note (noted _)
    · exact nofun

theorem afterClosing_announces_nothing (fault : Option Fault) :
    (Feed.afterClosing fault).All (isAnnouncement · = false) :=
  afterClosing_all (fun _ => rfl) fault

/-- What a step of the listener announces is the notice of the message that it tells. -/
theorem announcements_writtenBy (setup : Setup) (state : State) :
    announcements (writtenBy setup state) = (announcedBy setup state .listen).map announcement := by
  unfold writtenBy
  cases phase : state.listener with
  | accepted message =>
      have told : ∀ notices : List Notice,
          (notices.map announcement).filter isAnnouncement = notices.map announcement := by
        intro notices
        simp [isAnnouncement_announcement]
      have silent := noticeOfMessage_announces_nothing setup.filter message
      have nothing : (noticeOfMessage setup.filter message).entries.filter isAnnouncement = [] := by
        simpa [Report.All] using silent
      simp only [announcements, List.filter_append, nothing, List.nil_append, told]
  | closingStream ending =>
      have silent := afterClosing_announces_nothing state.feed.stream.closeFault
      simpa [announcements, announcedBy, phase, Report.All] using silent
  | finishing ending =>
      cases state.stopRequested with
      | false => simp [announcements, announcedBy, phase]
      | true =>
          cases ending with
          | finished => simp only [announcedBy, phase]; rfl
          | failed fault =>
              simp [announcements, announcedBy, phase, isAnnouncement_eq_false, Entry.plain]
  | recording reason cause =>
      simp [announcements, announcedBy, phase, isAnnouncement_eq_false, Entry.plain]
  | reporting failure =>
      cases setup.callback <;>
        simp [announcements, announcedBy, phase, isAnnouncement_eq_false]
  | _ => simp [announcements, announcedBy, phase]

theorem announcements_entriesBy (setup : Setup) (state : State) (move : Move) :
    announcements (entriesBy setup state move) = (announcedBy setup state move).map announcement := by
  cases move with
  | listen => exact announcements_writtenBy setup state
  | stop call =>
      simp only [entriesBy, announcedBy, List.map_nil]
      split
      · have silent := afterClosing_announces_nothing state.feed.stream.closeFault
        simpa [announcements, Report.All] using silent
      · rfl
  | _ => rfl

theorem announcements_of_step? (stepped : step? setup state move = some next) :
    announcements next.journal
      = announcements state.journal ++ (announcedBy setup state move).map announcement := by
  rw [journal_of_step? stepped, ← announcements_entriesBy]
  exact List.filter_append ..

theorem announcements_of_run (ran : run? setup first moves = some last) :
    announcements last.journal = announcements first.journal
      ++ (history (announcedBy setup) setup first moves).map announcement := by
  refine run?_induction (motive := fun moves state =>
    announcements state.journal = announcements first.journal
      ++ (history (announcedBy setup) setup first moves).map announcement) ?_ ?_ ran
  · simp [history]
  · intro before state move next ran announced stepped
    rw [history_snoc _ ran stepped, announcements_of_step? stepped, announced, List.map_append,
      List.append_assoc]

/-! ## What the listener still does -/

/-- Whether the listener goes on with what it holds without another look whether it should stop. -/
def Listener.isCommitted : Listener → Bool
  | accepted _ | putting _ => true
  | _ => false

/-- How many payloads the listener reads at most before its next look whether it should stop. -/
def Listener.readsLeft : Listener → Nat
  | reading | accepted _ | putting _ => 1
  | _ => 0

/-- A listener that is to stop commits itself to nothing more. -/
theorem nextPhase_isCommitted (requested : state.stopRequested = true) :
    (nextPhase setup state).isCommitted = false := by
  cases phase : state.listener <;> simp only [nextPhase, phase, requested, if_true] <;>
    (repeat' split) <;> rfl

/-- What only a committed listener shows is shown at most once after a stop is requested: by the
    step that the listener takes from where it was. -/
theorem history_of_committed {α : Type} {sight : State → Move → List α}
    (others : ∀ {state move}, move ≠ .listen → sight state move = [])
    (free : ∀ {state}, state.listener.isCommitted = false → sight state .listen = [])
    (requested : first.stopRequested = true) (ran : run? setup first moves = some last) :
    history sight setup first moves = [] ∨
      ∃ state, state.listener = first.listener ∧
        history sight setup first moves = sight state .listen := by
  have stages : last.stopRequested = true ∧
      (last.listener = first.listener ∧ history sight setup first moves = [] ∨
        last.listener.isCommitted = false ∧ (history sight setup first moves = [] ∨
          ∃ state, state.listener = first.listener ∧
            history sight setup first moves = sight state .listen)) := by
    refine run?_induction (motive := fun moves state => state.stopRequested = true ∧
      (state.listener = first.listener ∧ history sight setup first moves = [] ∨
        state.listener.isCommitted = false ∧ (history sight setup first moves = [] ∨
          ∃ state, state.listener = first.listener ∧
            history sight setup first moves = sight state .listen)))
      ⟨requested, .inl ⟨rfl, rfl⟩⟩ ?_ ran
    rintro before state move next ran ⟨requested, stage⟩ stepped
    rw [history_snoc _ ran stepped]
    by_cases own : move = .listen
    · subst own
      cases stepped
      rw [listen_stopRequested, listen_listener]
      refine ⟨requested, .inr ⟨nextPhase_isCommitted requested, ?_⟩⟩
      rcases stage with ⟨same, nothing⟩ | ⟨uncommitted, shown⟩
      · exact .inr ⟨state, same, by rw [nothing, List.nil_append]⟩
      · rwa [free uncommitted, List.append_nil]
    · have beside := beside_of_step? stepped own
      rw [others own, List.append_nil, beside.listener]
      exact ⟨beside.stopRequested requested, stage⟩
  rcases stages.2 with ⟨_, nothing⟩ | ⟨_, shown⟩
  · exact .inl nothing
  · exact shown

/-- With each payload that it reads a listener that is to stop comes nearer to its next look. -/
theorem readsLeft_nextPhase (requested : state.stopRequested = true) :
    (receivedBy state .listen).length + (nextPhase setup state).readsLeft
      ≤ state.listener.readsLeft := by
  cases phase : state.listener with
  | reading =>
      simp only [receivedBy, nextPhase, phase]
      cases state.feed.stream.read.1 with
      | payload payload =>
          simp only [Feed.ofReading, Feed.decode]
          cases Message.decode payload <;> exact Nat.le_refl 1
      | pending => exact Nat.le_refl 1
      | _ => exact Nat.zero_le 1
  | _ =>
      simp only [receivedBy, nextPhase, phase, requested, if_true, List.length_nil, Nat.zero_add]
      (repeat' split) <;> simp [Listener.readsLeft]

theorem length_receivedBy_le (requested : first.stopRequested = true)
    (ran : run? setup first moves = some last) :
    (history receivedBy setup first moves).length ≤ first.listener.readsLeft := by
  have bounded : last.stopRequested = true ∧
      (history receivedBy setup first moves).length + last.listener.readsLeft
        ≤ first.listener.readsLeft := by
    refine run?_induction (motive := fun moves state => state.stopRequested = true ∧
      (history receivedBy setup first moves).length + state.listener.readsLeft
        ≤ first.listener.readsLeft) ⟨requested, Nat.le_of_eq (Nat.zero_add _)⟩ ?_ ran
    rintro before state move next ran ⟨requested, bounded⟩ stepped
    rw [history_snoc _ ran stepped, List.length_append]
    by_cases own : move = .listen
    · subst own
      cases stepped
      rw [listen_stopRequested, listen_listener]
      have nearer : (receivedBy state .listen).length + (nextPhase setup state).readsLeft
          ≤ state.listener.readsLeft := readsLeft_nextPhase requested
      exact ⟨requested, by omega⟩
    · have beside := beside_of_step? stepped own
      rw [receivedBy_of_ne own, beside.listener]
      exact ⟨beside.stopRequested requested, bounded⟩
  omega

/-! ## What follows -/

section Opened

variable {options : Options} {client : Client} {watch : Watch} {later : List Move}

/-- A message that the listener goes to tell is that of the last payload that was read. -/
theorem received_of_accepted {message : Message}
    (opened : (openWith options client).report.outcome = .ok watch)
    (ran : run? watch.setup watch.state moves = some state)
    (accepted : state.listener = .accepted message) :
    ∃ before payload, history receivedBy watch.setup watch.state moves = before ++ [payload] ∧
      Message.decode payload = .ok message := by
  have accounted := accounted_of_run opened ran
  rw [accepted] at accounted
  obtain ⟨before, payload, read, decoded, _⟩ := accounted
  exact ⟨before, payload, read, decoded⟩

/-- Once a stop is requested, at most one notice is put on the channel, which the listener went to
    put there already. -/
theorem putBy_after_stop (requested : state.stopRequested = true)
    (ranOn : run? setup state later = some last) :
    history putBy setup state later = [] ∨
      ∃ notice, state.listener = .putting notice ∧ history putBy setup state later = [notice] := by
  have free : ∀ {state : State}, state.listener.isCommitted = false →
      putBy state .listen = [] := by
    intro state uncommitted
    cases phase : state.listener <;> simp_all [putBy, Listener.isCommitted]
  rcases history_of_committed putBy_of_ne free requested ranOn with
    nothing | ⟨committed, same, shown⟩
  · exact .inl nothing
  · rw [shown]
    simp only [putBy, same]
    cases state.listener with
    | putting notice =>
        cases committed.hasRoom with
        | true => exact .inr ⟨notice, rfl, rfl⟩
        | false => exact .inl rfl
    | _ => exact .inl rfl

/-- Once a stop is requested, at most one message is told, which the listener went to tell
    already. -/
theorem translatedBy_after_stop (requested : state.stopRequested = true)
    (ranOn : run? setup state later = some last) :
    history translatedBy setup state later = [] ∨
      ∃ message, state.listener = .accepted message ∧
        history translatedBy setup state later = [message] := by
  have free : ∀ {state : State}, state.listener.isCommitted = false →
      translatedBy state .listen = [] := by
    intro state uncommitted
    cases phase : state.listener <;> simp_all [translatedBy, Listener.isCommitted]
  rcases history_of_committed translatedBy_of_ne free requested ranOn with
    nothing | ⟨committed, same, shown⟩
  · exact .inl nothing
  · rw [shown]
    simp only [translatedBy, same]
    cases state.listener with
    | accepted message => exact .inr ⟨message, rfl, rfl⟩
    | _ => exact .inl rfl

/-- Once a stop is requested, at most one notice is announced, that of the message that the listener
    went to tell already. -/
theorem announcedBy_after_stop (requested : state.stopRequested = true)
    (ranOn : run? setup state later = some last) :
    history (announcedBy setup) setup state later = [] ∨
      ∃ message notice, state.listener = .accepted message ∧
        (noticeOfMessage setup.filter message).outcome = .ok (some notice) ∧
        history (announcedBy setup) setup state later = [notice] := by
  have free : ∀ {state : State}, state.listener.isCommitted = false →
      announcedBy setup state .listen = [] := by
    intro state uncommitted
    cases phase : state.listener <;> simp_all [announcedBy, Listener.isCommitted]
  rcases history_of_committed announcedBy_of_ne free requested ranOn with
    nothing | ⟨committed, same, shown⟩
  · exact .inl nothing
  · rw [shown]
    simp only [announcedBy, same]
    cases state.listener with
    | accepted message =>
        simp only
        split
        · exact .inr ⟨message, _, rfl, ‹_›, rfl⟩
        · exact .inl rfl
    | _ => exact .inl rfl

/-- What was put on the channel until a stop was requested, and what is put there ever after, is
    told by the payloads that were read before. -/
theorem putBy_isPrefix_of_stop (opened : (openWith options client).report.outcome = .ok watch)
    (ran : run? watch.setup watch.state moves = some state)
    (requested : state.stopRequested = true)
    (ranOn : run? watch.setup state later = some last) :
    history putBy watch.setup watch.state (moves ++ later) <+:
      noticesOfFeed watch.setup.filter (history receivedBy watch.setup watch.state moves) := by
  have accounted := accounted_of_run opened ran
  rw [history_append _ _ _ ran]
  rcases putBy_after_stop requested ranOn with nothing | ⟨notice, putting, one⟩
  · rw [nothing, List.append_nil]
    exact accounted.isPrefix
  · rw [putting] at accounted
    exact ⟨[], by rw [List.append_nil, one, accounted.2]⟩

/-- Little follows a stop, wherever it is requested and however the run goes on.  At most one more
    notice is put on the channel, which the listener had found free of a stop and went to put there;
    and all that is ever put there is told by payloads that were read before.  At most one more
    payload is read.  At most one message is told, and at most one notice is announced in the
    journal, the one of a message that the listener had found free of a stop, and that message is of
    a payload that was read before. -/
theorem little_follows_stop (opened : (openWith options client).report.outcome = .ok watch)
    (ran : run? watch.setup watch.state moves = some state)
    (requested : state.stopRequested = true)
    (ranOn : run? watch.setup state later = some last) :
    (history putBy watch.setup state later = [] ∨
      ∃ notice, state.listener = .putting notice ∧
        history putBy watch.setup state later = [notice]) ∧
    (∃ feed, FeedTells watch.setup.filter (history receivedBy watch.setup watch.state moves) feed ∧
      history putBy watch.setup watch.state (moves ++ later) <+: feed) ∧
    (history receivedBy watch.setup state later).length ≤ 1 ∧
    (history translatedBy watch.setup state later = [] ∨
      ∃ message, state.listener = .accepted message ∧
        history translatedBy watch.setup state later = [message]) ∧
    (announcements last.journal = announcements state.journal ∨
      ∃ message notice, state.listener = .accepted message ∧
        (noticeOfMessage watch.setup.filter message).outcome = .ok (some notice) ∧
        announcements last.journal = announcements state.journal ++ [announcement notice]) ∧
    ∀ message, state.listener = .accepted message →
      ∃ before payload, history receivedBy watch.setup watch.state moves = before ++ [payload] ∧
        Message.decode payload = .ok message := by
  refine ⟨putBy_after_stop requested ranOn, ?_, ?_, translatedBy_after_stop requested ranOn, ?_,
    fun message accepted => received_of_accepted opened ran accepted⟩
  · exact ⟨_, feedTells_noticesOfFeed _ _, putBy_isPrefix_of_stop opened ran requested ranOn⟩
  · refine Nat.le_trans (length_receivedBy_le requested ranOn) ?_
    cases state.listener <;> simp [Listener.readsLeft]
  · rw [announcements_of_run ranOn]
    rcases announcedBy_after_stop requested ranOn with
      nothing | ⟨message, notice, accepted, tells, one⟩
    · exact .inl (by rw [nothing, List.map_nil, List.append_nil])
    · exact .inr ⟨message, notice, accepted, tells, by rw [one, List.map_singleton]⟩

set_option maxRecDepth 4000 in
/-- A stop is requested while the listener goes to put a notice on a full channel.  Once there is
    room it does so, reads the end of the feed and exits. -/
theorem little_follows_stop_of_example :
    ∃ watch state last, (openWith exampleOptions exampleClient).report.outcome = .ok watch ∧
      run? watch.setup watch.state (List.replicate 8 .listen ++ [.callStop, .stop 0]) = some state ∧
      state.stopRequested = true ∧ state.channel.length = state.capacity ∧
      run? watch.setup state (.take :: List.replicate 8 .listen) = some last ∧
      last.listener = .exited ∧
      (∃ notice, state.listener = .putting notice ∧
        history putBy watch.setup state (.take :: List.replicate 8 .listen) = [notice]) ∧
      announcements last.journal = announcements state.journal := by
  obtain ⟨watch, state, last, opened, ran, requested, full, ranOn, exited, puts, goes⟩ :
      ∃ watch state last, (openWith exampleOptions exampleClient).report.outcome = .ok watch ∧
        run? watch.setup watch.state (List.replicate 8 .listen ++ [.callStop, .stop 0])
          = some state ∧
        state.stopRequested = true ∧ state.channel.length = state.capacity ∧
        run? watch.setup state (.take :: List.replicate 8 .listen) = some last ∧
        last.listener = .exited ∧
        (history putBy watch.setup state (.take :: List.replicate 8 .listen)).length = 1 ∧
        state.listener.isCommitted = true ∧ ∀ message, state.listener ≠ .accepted message :=
    ⟨_, _, _, rfl, rfl, rfl, rfl, rfl, rfl, rfl, rfl, nofun⟩
  obtain ⟨put, _, _, _, announced, _⟩ := little_follows_stop opened ran requested ranOn
  refine ⟨watch, state, last, opened, ran, requested, full, ranOn, exited, ?_, ?_⟩
  · refine put.resolve_left fun nothing => ?_
    rw [nothing] at puts
    cases puts
  · exact announced.resolve_right fun ⟨message, _, accepted, _⟩ => goes.2 message accepted

end Opened

end ContainerWatch.Watcher
