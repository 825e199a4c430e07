import ContainerWatch.Proofs.Watcher.Stopping

/-!
# One more payload

Two watchers that differ in one payload of which nothing is told go the same way.  The one with the
payload takes up to three steps more, to read it, to look whether it should stop, and to find that
there is nothing to tell.  Only if a stop is requested when it has just read the payload do the two
part: the one goes to close the feed, and the other is at its next read.  But then neither of them
publishes or records anything any more.

So every run of the one has a counterpart among the runs of the other, with the same items delivered.
A step of the listener may have no counterpart, or several.
-/

namespace ContainerWatch.Watcher

open Engine Journal Sighting

variable {setup : Setup} {state next : State} {move : Move} {moves : List Move}

/-! ## What is seen of a run -/

/-- The notices that were published: those that have been taken, and those that wait. -/
def State.published (state : State) : List Notice := state.taken ++ state.channel

/-! ## Listeners that are to stop -/

/-- Whether a listener that is to stop has nothing in its hands that it would publish or record. -/
def Listener.isSpent : Listener → Bool
  | reading | received _ | broken _ | closing _ | marking _ | closingStream _ | finishing _ => true
  | leaving | exited => true
  | _ => false

/-- A listener that publishes nothing any more and does not fail. -/
structure Spent (state : State) : Prop where
  stopRequested : state.stopRequested = true
  listener : state.listener.isSpent = true

/-- What stays as it is once a listener is spent. -/
structure Settled (state next : State) : Prop where
  spent : Spent next
  capacity : next.capacity = state.capacity
  published : next.published = state.published
  failure : next.failure = state.failure
  reported : next.reported = state.reported

/-- A listener that is spent goes to its end without publishing or recording anything. -/
theorem Spent.listen (spent : Spent state) : Settled state (listen setup state) := by
  obtain ⟨stopped, empty⟩ := spent
  have quiet : (nextPhase setup state).isSpent = true ∧ putBy state .listen = [] ∧
      failureAfter state = state.failure ∧ toldBy setup state = [] := by
    cases phase : state.listener with
    | reading | received _ | broken _ | closing _ | marking _ | closingStream _ | finishing _
    | leaving | exited =>
        refine ⟨?_, by simp [putBy, phase], by simp [failureAfter, phase], by simp [toldBy, phase]⟩
        -- Whoever looks whether to stop finds that it should, so no branch leads to a message or on
        -- to the recording of a failure.
        simp only [nextPhase, phase, stopped, if_true]
        (repeat' split) <;> rfl
    | _ => simp [phase, Listener.isSpent] at empty
  obtain ⟨later, noPut, unrecorded, untold⟩ := quiet
  refine ⟨⟨by simpa using stopped, by simpa using later⟩, by simp, ?_, ?_, ?_⟩
  · simp [State.published, noPut]
  · simp [unrecorded]
  · simp [untold]

theorem Spent.step? (spent : Spent state) (stepped : Watcher.step? setup state move = some next) :
    Settled state next := by
  by_cases own : move = .listen
  · subst own
    cases stepped
    exact spent.listen
  · have beside := beside_of_step? stepped own
    refine ⟨⟨beside.stopRequested spent.stopRequested, ?_⟩, beside.capacity, ?_, beside.failure,
      beside.reported⟩
    · rw [beside.listener]
      exact spent.listener
    · rw [State.published, beside.taken, List.append_assoc, beside.channel]
      rfl

/-! ## States that differ in the listener, its stream and the journal -/

/-- The state with another phase of the listener, other unread items and another journal. -/
def State.varied (state : State) (phase : Listener) (items : List StreamItem)
    (journal : List Entry) : State :=
  { state with
    listener := phase
    feed := { state.feed with stream := { state.feed.stream with items := items } }
    journal := journal }

/-- The same move of anybody but the listener and the engine leads to states that differ likewise, as
    long as it cannot be told whether the listener runs. -/
theorem step?_varied {phase : Listener} {items : List StreamItem} {journal : List Entry}
    (running : phase.isRunning = state.listener.isRunning) (other : move ≠ .listen)
    (undelivered : deliveredBy move = []) :
    Watcher.step? setup (state.varied phase items journal) move
      = (Watcher.step? setup state move).map fun next =>
          next.varied phase items (journal ++ entriesBy setup state move) := by
  -- Of all the others only a stop call that waits and a reader that has looked for a failure ask for
  -- the listener, and all they ask is whether it runs.
  cases move with
  | listen => exact absurd rfl other
  | deliver item => cases undelivered
  | take =>
      simp only [Watcher.step?, State.take?, State.varied]
      cases state.channel <;> simp [entriesBy]
  | callStop => simp [Watcher.step?, callStop, State.note, State.write, State.varied, entriesBy]
  | stop call =>
      simp only [Watcher.step?, State.varied, entriesBy]
      cases found : state.stops[call]? with
      | none => rfl
      | some later =>
          cases later with
          | closingStream =>
              simp only [stopStep, closeForStop, State.closeStream]
              cases (Feed.afterClosing state.feed.stream.closeFault).outcome <;> rfl
          | waiting => simp [stopStep, State.stopAt, State.isRunning, running]
          | _ => simp [stopStep, State.stopAt, State.markClosed]
  | openReader =>
      cases idle : state.reader.all (·.isDone) <;>
        simp [Watcher.step?, State.varied, State.readerAt, entriesBy, idle]
  | read =>
      simp only [Watcher.step?, State.varied, entriesBy]
      cases found : state.reader with
      | none => rfl
      | some later =>
          cases later with
          | polling =>
              simp only [readStep, poll, State.take?]
              cases waiting : state.channel <;> simp [State.readerAt, waiting]
          | sawFailure failure => simp [readStep, State.readerAt, State.isRunning, running]
          | _ => simp [readStep, State.readerAt, found]
  | closeReader =>
      simp only [Watcher.step?, State.varied]
      split <;> simp [entriesBy]

/-- A step of a listener that does not read leads to states that differ likewise. -/
theorem listen_varied {items : List StreamItem} {journal : List Entry}
    (elsewhere : state.listener ≠ .reading) :
    listen setup (state.varied state.listener items journal)
      = (listen setup state).varied (nextPhase setup state) items
          (journal ++ writtenBy setup state) := by
  unfold listen nextPhase writtenBy
  cases phase : state.listener with
  | reading => exact absurd phase elsewhere
  | subscribing => cases setup.subscription <;> simp [State.varied, State.listenerAt]
  | accepted message =>
      simp only [interpret, announcedBy, phase, State.varied]
      cases (noticeOfMessage setup.filter message).outcome with
      | error fault => simp [State.listenerAt, State.write]
      | ok told =>
          cases told <;> simp [State.listenerAt, State.note, State.write, announcement]
  | putting notice =>
      by_cases room : state.channel.length < state.capacity <;>
        simp [State.hasRoom, State.varied, State.listenerAt, State.put, room]
  | closing ending =>
      cases marked : state.feed.closed <;> simp [State.listenerAt, State.varied, marked]
  | closingStream ending =>
      simp only [closeAtEnd, State.closeStream, State.varied]
      cases (Feed.afterClosing state.feed.stream.closeFault).outcome <;>
        simp [State.listenerAt, State.write, Stream.close]
  | finishing ending =>
      cases ending <;> cases stopping : state.stopRequested <;>
        simp [finish, State.listenerAt, State.note, State.write, State.varied, stopping]
  | reporting failure =>
      simp only [reportFailure]
      cases setup.callback <;> simp [State.listenerAt, State.write, State.varied]
  | armed | received message | publishing notice =>
      cases stopping : state.stopRequested <;> simp [State.listenerAt, State.varied, stopping]
  | _ =>
      simp [recordFailure, State.markClosed, State.listenerAt, State.note, State.write, State.varied]

theorem State.varied_self (state : State) :
    state.varied state.listener state.feed.stream.items state.journal = state := rfl

/-- What a move of anybody but the listener and the engine leaves as it was, and what it writes. -/
theorem next_eq_varied (stepped : Watcher.step? setup state move = some next)
    (other : move ≠ .listen) (undelivered : deliveredBy move = []) :
    next = next.varied state.listener state.feed.stream.items
      (state.journal ++ entriesBy setup state move) := by
  have same : Watcher.step? setup (state.varied state.listener state.feed.stream.items state.journal)
      move = _ := step?_varied rfl other undelivered
  rw [State.varied_self, stepped, Option.map_some, Option.some.injEq] at same
  exact same

/-- Whether the next step of a listener takes an item of the stream, if there is one. -/
def TakesItem (state : State) : Prop :=
  state.listener = .reading ∧ (state.feed.stream.closed && !state.feed.stream.recorded) = false

/-- A step of a listener that takes no item does the same whatever items there are. -/
theorem listen_varied_of_not_takesItem {items : List StreamItem} {journal : List Entry}
    (untaken : ¬ TakesItem state) :
    listen setup (state.varied state.listener items journal)
      = (listen setup state).varied (nextPhase setup state) items
          (journal ++ writtenBy setup state) := by
  by_cases reading : state.listener = .reading
  · have shut : (state.feed.stream.closed && !state.feed.stream.recorded) = true := by
      by_contra opened
      exact untaken ⟨reading, by simpa using opened⟩
    simp only [listen, nextPhase, writtenBy, reading, readFeed, Feed.read, Stream.read, State.varied,
      shut, if_true]
    cases afterClose : state.feed.stream.afterClose with
    | payload value =>
        simp only [Stream.readClosed, afterClose, Feed.ofReading]
        cases Feed.decode value <;> simp [State.listenerAt]
    | _ => simp [Stream.readClosed, afterClose, Feed.ofReading, State.listenerAt]
  · exact listen_varied reading

/-- Where a listener goes on that has read an item. -/
def phaseAfter (item : StreamItem) : Listener :=
  match Feed.ofReading (Stream.reading item) with
  | .message message => .received message
  | .broken fault => .broken fault
  | .finished => .closing .finished
  | .pending => .reading

/-- A step of a listener that takes an item. -/
theorem listen_varied_of_takesItem {item : StreamItem} {items : List StreamItem}
    {journal : List Entry} (takes : TakesItem state) :
    listen setup (state.varied .reading (item :: items) journal)
      = state.varied (phaseAfter item) items journal := by
  obtain ⟨reading, opened⟩ := takes
  simp only [listen, readFeed, Feed.read, Stream.read, State.varied, opened, phaseAfter,
    Stream.readItem, Bool.false_eq_true, if_false]
  cases Feed.ofReading (Stream.reading item) <;> simp [State.listenerAt]

/-- Where a listener goes on that finds no item: a recorded stream has come to its end. -/
def phaseAtEnd (recorded : Bool) : Listener := if recorded then .closing .finished else .reading

/-- A step of a listener that would take an item where there is none. -/
theorem listen_varied_of_empty {journal : List Entry} (takes : TakesItem state) :
    listen setup (state.varied .reading [] journal)
      = state.varied (phaseAtEnd state.feed.stream.recorded) [] journal := by
  obtain ⟨reading, opened⟩ := takes
  simp only [listen, readFeed, Feed.read, Stream.read, State.varied, opened, Stream.readItem,
    Bool.false_eq_true, if_false]
  by_cases recorded : state.feed.stream.recorded = true <;>
    simp [recorded, phaseAtEnd, Feed.ofReading, State.listenerAt]

theorem listen_of_takesItem {item : StreamItem} {items : List StreamItem}
    (takes : TakesItem state) (unread : state.feed.stream.items = item :: items) :
    listen setup state = state.varied (phaseAfter item) items state.journal := by
  have step : listen setup (state.varied .reading (item :: items) state.journal) = _ :=
    listen_varied_of_takesItem takes
  rwa [← takes.1, ← unread, State.varied_self] at step

/-- A step of a listener that takes no item changes nothing about the unread ones. -/
theorem listen_of_not_takesItem (untaken : ¬ TakesItem state) :
    listen setup state = (listen setup state).varied (nextPhase setup state)
      state.feed.stream.items (state.journal ++ writtenBy setup state) := by
  have step : listen setup (state.varied state.listener state.feed.stream.items state.journal) = _ :=
    listen_varied_of_not_takesItem untaken
  rwa [State.varied_self] at step

/-- The journal has no bearing on what a listener does. -/
theorem listen_varied_journal (setup : Setup) (state : State) (journal : List Entry) :
    listen setup (state.varied state.listener state.feed.stream.items journal)
      = (listen setup state).varied (listen setup state).listener
          (listen setup state).feed.stream.items (journal ++ writtenBy setup state) := by
  by_cases takes : TakesItem state
  · have silent : writtenBy setup state = [] := by rw [writtenBy, takes.1]
    rw [silent, List.append_nil]
    cases unread : state.feed.stream.items with
    | nil =>
        have step : listen setup (state.varied .reading [] state.journal) = _ :=
          listen_varied_of_empty takes
        rw [← takes.1, ← unread, State.varied_self] at step
        rw [takes.1, listen_varied_of_empty takes, step, unread]
        rfl
    | cons item items =>
        rw [takes.1, listen_varied_of_takesItem takes, listen_of_takesItem takes unread]
        rfl
  · have same : (listen setup state).feed.stream.items = state.feed.stream.items := by
      rw [listen_of_not_takesItem takes]
      rfl
    rw [listen_varied_of_not_takesItem takes, listen_listener, same]

/-! ## Runs that lead somewhere -/

/-- A run that delivers given items leads to a state with a property. -/
def Reaches (setup : Setup) (state : State) (items : List StreamItem) (property : State → Prop) :
    Prop :=
  ∃ moves last, run? setup state moves = some last ∧ delivered moves = items ∧ property last

section Reaches

variable {items : List StreamItem} {property weaker : State → Prop}

theorem Reaches.here (holds : property state) : Reaches setup state [] property :=
  ⟨[], state, rfl, rfl, holds⟩

theorem Reaches.after (stepped : Watcher.step? setup state move = some next)
    (reaches : Reaches setup next items property) :
    Reaches setup state (deliveredBy move ++ items) property := by
  obtain ⟨moves, last, ran, same, holds⟩ := reaches
  refine ⟨move :: moves, last, run?_cons.mpr ⟨next, stepped, ran⟩, ?_, holds⟩
  rw [← same]
  rfl

theorem Reaches.single (stepped : Watcher.step? setup state move = some next)
    (holds : property next) : Reaches setup state (deliveredBy move) property := by
  have reaches : Reaches setup state (deliveredBy move ++ []) property :=
    Reaches.after stepped (Reaches.here holds)
  rwa [List.append_nil] at reaches

theorem Reaches.listen (reaches : Reaches setup (listen setup state) items property) :
    Reaches setup state items property := by
  have stepped : Watcher.step? setup state .listen = some (Watcher.listen setup state) := rfl
  exact Reaches.after stepped reaches

theorem Reaches.mono (reaches : Reaches setup state items property)
    (weaken : ∀ last, property last → weaker last) : Reaches setup state items weaker := by
  obtain ⟨moves, last, ran, same, holds⟩ := reaches
  exact ⟨moves, last, ran, same, weaken last holds⟩

/-- A relation of which every move of the one has a counterpart among the runs of the other has a
    counterpart for every run of the one. -/
theorem Reaches.of_run (related : State → State → Prop) {other last : State}
    (kept : ∀ state other move next, related state other →
      Watcher.step? setup state move = some next →
      Reaches setup other (deliveredBy move) (related next))
    (start : related state other) (ran : run? setup state moves = some last) :
    Reaches setup other (delivered moves) (related last) := by
  induction moves generalizing state other with
  | nil =>
      cases ran
      exact Reaches.here start
  | cons move moves ih =>
      obtain ⟨next, stepped, ran⟩ := run?_cons.mp ran
      obtain ⟨first, middle, went, same, holds⟩ := kept state other move next start stepped
      obtain ⟨rest, end', goes, same', holds'⟩ := ih holds ran
      refine ⟨first ++ rest, end', ?_, ?_, holds'⟩
      · rw [run?_append, went]
        exact goes
      · rw [delivered, List.flatMap_append, ← delivered, ← delivered, same, same']
        rfl

end Reaches

/-! ## Apart for good -/

/-- Two watchers that are to stop, neither of which has anything left to publish or to record. -/
structure Parted (state other : State) : Prop where
  spent : Spent state
  spent' : Spent other
  capacity : state.capacity = other.capacity
  published : state.published = other.published
  failure : state.failure = other.failure
  reported : state.reported = other.reported

section Parted

variable {other : State}

theorem Parted.symm (parted : Parted state other) : Parted other state :=
  ⟨parted.spent', parted.spent, parted.capacity.symm, parted.published.symm, parted.failure.symm,
    parted.reported.symm⟩

/-- Whatever happens to the one, the other need do nothing for them to stay apart. -/
theorem Parted.settle (parted : Parted state other) (settled : Settled state next) :
    Parted next other :=
  ⟨settled.spent, parted.spent', settled.capacity.trans parted.capacity,
    settled.published.trans parted.published, settled.failure.trans parted.failure,
    settled.reported.trans parted.reported⟩

theorem Parted.step? (parted : Parted state other)
    (stepped : Watcher.step? setup state move = some next) :
    Reaches setup other (deliveredBy move) (Parted next) := by
  have apart := parted.settle (parted.spent.step? stepped)
  cases move with
  | deliver item =>
      have delivers : ∃ later, Watcher.step? setup other (.deliver item) = some later := ⟨_, rfl⟩
      obtain ⟨later, delivers⟩ := delivers
      exact Reaches.single delivers (apart.symm.settle (parted.spent'.step? delivers)).symm
  | _ => exact Reaches.here apart

end Parted

/-! ## One payload ahead -/

variable {payload : Value} {message : Message} {phase : Listener} {items : List StreamItem}
  {journal : List Entry}

/-- Where a listener with one more payload stands: the payload is still to be read, or it has it in
    its hands while the other is at its next read, or it is done with it. -/
inductive Ahead (payload : Value) (message : Message) (state : State) :
    Listener → List StreamItem → Prop
  | waiting (before after : List StreamItem) (unread : state.feed.stream.items = before ++ after) :
      Ahead payload message state state.listener (before ++ .payload payload :: after)
  | received (reading : state.listener = .reading) :
      Ahead payload message state (.received message) state.feed.stream.items
  | accepted (reading : state.listener = .reading) :
      Ahead payload message state (.accepted message) state.feed.stream.items
  | passed : Ahead payload message state state.listener state.feed.stream.items

/-- How a watcher with one more payload stands to one without: its listener is one payload ahead, or
    they are apart for good. -/
inductive Alongside (payload : Value) (message : Message) (state : State) : State → Prop
  | together {phase : Listener} {items : List StreamItem} {journal : List Entry}
      (ahead : Ahead payload message state phase items) (rows : state.journal.Sublist journal) :
      Alongside payload message state (state.varied phase items journal)
  | parted {other : State} (parted : Parted state other) : Alongside payload message state other

theorem Ahead.isRunning (ahead : Ahead payload message state phase items) :
    phase.isRunning = state.listener.isRunning := by
  cases ahead with
  | waiting | passed => rfl
  | received reading | accepted reading => rw [reading]; rfl

/-- What is ahead is so because of the listener and the unread items only. -/
theorem Ahead.congr (ahead : Ahead payload message state phase items)
    (listener : next.listener = state.listener)
    (unread : next.feed.stream.items = state.feed.stream.items) :
    Ahead payload message next phase items := by
  cases ahead with
  | waiting before after split =>
      rw [← listener]
      exact .waiting before after (unread.trans split)
  | received reading =>
      rw [← unread]
      exact .received (listener.trans reading)
  | accepted reading =>
      rw [← unread]
      exact .accepted (listener.trans reading)
  | passed =>
      rw [← listener, ← unread]
      exact .passed

/-- What is delivered to both comes to the end of what they have to read. -/
theorem Ahead.deliver (ahead : Ahead payload message state phase items)
    (rows : state.journal.Sublist journal) (item : StreamItem) :
    Alongside payload message
      (state.varied state.listener (state.feed.stream.items ++ [item]) state.journal)
      (state.varied phase (items ++ [item]) journal) := by
  refine .together ?_ rows
  cases ahead with
  | waiting before after split =>
      rw [List.append_assoc, List.cons_append]
      refine .waiting before (after ++ [item]) ?_
      rw [← List.append_assoc, ← split]
      rfl
  | received reading => exact .received reading
  | accepted reading => exact .accepted reading
  | passed => exact .passed

/-- Only the listener and the engine make a difference to how the two stand to each other. -/
theorem Ahead.beside (ahead : Ahead payload message state phase items)
    (rows : state.journal.Sublist journal) (stepped : step? setup state move = some next)
    (other : move ≠ .listen) (undelivered : deliveredBy move = []) :
    Alongside payload message next
      (next.varied phase items (journal ++ entriesBy setup state move)) := by
  have same := next_eq_varied stepped other undelivered
  refine .together (ahead.congr ?_ ?_) ?_
  · rw [same]
    rfl
  · rw [same]
    rfl
  · rw [same]
    exact rows.append_right _

/-! ## The listeners -/

/-- A listener that is to stop when it has just read the payload is apart from the other for good. -/
theorem parted_of_received (stopped : state.stopRequested = true)
    (reading : state.listener = .reading) :
    Parted state (state.varied (.received message) items journal) :=
  ⟨⟨stopped, by rw [reading]; rfl⟩, ⟨stopped, rfl⟩, rfl, rfl, rfl, rfl⟩

theorem listen_received (unasked : state.stopRequested = false) :
    listen setup (state.varied (.received message) items journal)
      = state.varied (.accepted message) items journal := by
  simp [listen, State.varied, State.listenerAt, unasked]

/-- A listener that finds nothing to tell goes on to its next read. -/
theorem listen_accepted (idle : (noticeOfMessage setup.filter message).outcome = .ok none) :
    listen setup (state.varied (.accepted message) items journal)
      = state.varied .reading items
          (journal ++ (noticeOfMessage setup.filter message).entries) := by
  simp [listen, interpret, State.varied, State.listenerAt, State.write, idle]

theorem listen_payload (decoded : Message.decode payload = .ok message) (takes : TakesItem state) :
    listen setup (state.varied .reading (.payload payload :: items) journal)
      = state.varied (.received message) items journal := by
  have read : phaseAfter (.payload payload) = .received message := by
    simp [phaseAfter, Stream.reading, Feed.ofReading, Feed.decode, decoded]
  rw [listen_varied_of_takesItem takes, read]

/-- Listeners that have both done with the payload go on together. -/
theorem listen_passed (rows : state.journal.Sublist journal) :
    Alongside payload message (listen setup state)
      (listen setup (state.varied state.listener state.feed.stream.items journal)) := by
  rw [listen_varied_journal]
  refine .together .passed ?_
  rw [listen_journal]
  exact rows.append_right _

/-- Listeners that have both to take another item before the payload go on together, and so do
    listeners that take none. -/
theorem listen_waiting {before after : List StreamItem} (rows : state.journal.Sublist journal)
    (unread : state.feed.stream.items = before ++ after) (earlier : TakesItem state → before ≠ []) :
    Alongside payload message (listen setup state)
      (listen setup (state.varied state.listener (before ++ .payload payload :: after) journal)) := by
  by_cases takes : TakesItem state
  · obtain ⟨item, items, rfl⟩ := List.exists_cons_of_ne_nil (earlier takes)
    rw [takes.1, List.cons_append, listen_varied_of_takesItem takes,
      listen_of_takesItem takes unread]
    exact .together (.waiting items after rfl) rows
  · rw [listen_of_not_takesItem takes, listen_varied_of_not_takesItem takes]
    refine .together (.waiting before after unread) (rows.append_right _)

/-! ## What the one can do, the other can do -/

section CatchUp

variable (decoded : Message.decode payload = .ok message)
  (idle : (noticeOfMessage setup.filter message).outcome = .ok none)

theorem reaches_of_passed (rows : state.journal.Sublist journal) :
    Reaches setup (state.varied state.listener state.feed.stream.items journal) []
      (Alongside payload message (listen setup state)) :=
  Reaches.listen (Reaches.here (listen_passed rows))

include idle

/-- A listener that goes to tell what the payload says catches up with the other. -/
theorem reaches_of_accepted (reading : state.listener = .reading)
    (rows : state.journal.Sublist journal) :
    Reaches setup (state.varied (.accepted message) state.feed.stream.items journal) []
      (Alongside payload message (listen setup state)) := by
  refine Reaches.listen ?_
  rw [listen_accepted idle, ← reading]
  exact reaches_of_passed (rows.trans (List.sublist_append_left _ _))

/-- A listener that has just read the payload catches up with the other, or is apart from it. -/
theorem reaches_of_received (reading : state.listener = .reading)
    (rows : state.journal.Sublist journal) :
    Reaches setup (state.varied (.received message) state.feed.stream.items journal) []
      (Alongside payload message (listen setup state)) := by
  cases stopping : state.stopRequested with
  | true =>
      -- The other is at its next read, which may bring anything; there is nothing to catch up with.
      have apart : Parted state (state.varied (.received message) state.feed.stream.items journal) :=
        parted_of_received stopping reading
      exact Reaches.here (.parted (apart.settle apart.spent.listen))
  | false =>
      refine Reaches.listen ?_
      rw [listen_received stopping]
      exact reaches_of_accepted idle reading rows

include decoded

/-- Wherever the listener with the payload stands, it can follow a step of the other. -/
theorem Ahead.reaches (ahead : Ahead payload message state phase items)
    (rows : state.journal.Sublist journal) :
    Reaches setup (state.varied phase items journal) []
      (Alongside payload message (listen setup state)) := by
  cases ahead with
  | waiting before after unread =>
      -- The payload is taken only if it is first and an item is taken at all: a stream that has been
      -- closed gives its last word whatever there is to read.
      by_cases next : TakesItem state ∧ before = []
      · obtain ⟨takes, rfl⟩ := next
        refine Reaches.listen ?_
        rw [takes.1, List.nil_append, listen_payload decoded takes, ← List.nil_append after, ← unread]
        exact reaches_of_received idle takes.1 rows
      · exact Reaches.listen (Reaches.here (listen_waiting rows unread fun takes empty =>
          next ⟨takes, empty⟩))
  | received reading => exact reaches_of_received idle reading rows
  | accepted reading => exact reaches_of_accepted idle reading rows
  | passed => exact reaches_of_passed rows

/-- The other can follow a step of the listener with the payload, or has nothing to follow. -/
theorem Ahead.reaches_back (ahead : Ahead payload message state phase items)
    (rows : state.journal.Sublist journal) :
    Reaches setup state [] fun last =>
      Alongside payload message last (listen setup (state.varied phase items journal)) := by
  cases ahead with
  | waiting before after unread =>
      by_cases next : TakesItem state ∧ before = []
      · obtain ⟨takes, rfl⟩ := next
        rw [takes.1, List.nil_append, listen_payload decoded takes, ← List.nil_append after, ← unread]
        exact Reaches.here (.together (.received takes.1) rows)
      · exact Reaches.listen (Reaches.here (listen_waiting rows unread fun takes empty =>
          next ⟨takes, empty⟩))
  | received reading =>
      cases stopping : state.stopRequested with
      | true =>
          have apart :
              Parted state (state.varied (.received message) state.feed.stream.items journal) :=
            parted_of_received stopping reading
          exact Reaches.here (.parted (apart.symm.settle apart.spent'.listen).symm)
      | false =>
          rw [listen_received stopping]
          exact Reaches.here (.together (.accepted reading) rows)
  | accepted reading =>
      rw [listen_accepted idle, ← reading]
      exact Reaches.here (.together .passed (rows.trans (List.sublist_append_left _ _)))
  | passed => exact Reaches.listen (Reaches.here (listen_passed rows))

/-- A move of the watcher without the payload has its counterpart in the other's runs. -/
theorem Alongside.step? {other : State} (alongside : Alongside payload message state other)
    (stepped : Watcher.step? setup state move = some next) :
    Reaches setup other (deliveredBy move) (Alongside payload message next) := by
  cases alongside with
  | parted parted => exact (parted.step? stepped).mono fun _ => .parted
  | @together phase items journal ahead rows =>
      rcases move.listener_engine_or_other with rfl | ⟨item, rfl⟩ | ⟨others, undelivered⟩
      · cases stepped
        exact ahead.reaches decoded idle rows
      · cases stepped
        have delivers : Watcher.step? setup (state.varied phase items journal) (.deliver item)
            = some (state.varied phase (items ++ [item]) journal) := rfl
        exact Reaches.single delivers (ahead.deliver rows item)
      · have step : Watcher.step? setup (state.varied phase items journal) move
            = some (next.varied phase items (journal ++ entriesBy setup state move)) := by
          rw [step?_varied ahead.isRunning others undelivered, stepped, Option.map_some]
        exact Reaches.single step (ahead.beside rows stepped others undelivered)

/-- A move of the watcher with the payload has its counterpart in the other's runs. -/
theorem Alongside.step?_back {other : State} (alongside : Alongside payload message state other)
    (stepped : Watcher.step? setup other move = some next) :
    Reaches setup state (deliveredBy move) fun last => Alongside payload message last next := by
  cases alongside with
  | parted parted =>
      exact (parted.symm.step? stepped).mono fun _ parted => .parted parted.symm
  | @together phase items journal ahead rows =>
      rcases move.listener_engine_or_other with rfl | ⟨item, rfl⟩ | ⟨others, undelivered⟩
      · cases stepped
        exact ahead.reaches_back decoded idle rows
      · cases stepped
        have delivers : Watcher.step? setup state (.deliver item)
            = some (state.varied state.listener (state.feed.stream.items ++ [item]) state.journal) :=
          rfl
        exact Reaches.single delivers (ahead.deliver rows item)
      · rw [step?_varied ahead.isRunning others undelivered, Option.map_eq_some_iff] at stepped
        obtain ⟨later, step, rfl⟩ := stepped
        exact Reaches.single step (ahead.beside rows step others undelivered)

end CatchUp

/-! ## What is the same of two watchers -/

/-- Two watchers that published the same and failed alike.  Unless a stop is requested, they differ in
    nothing but what their listeners have in their hands and what is still to be read, and in the
    journal, where the other has all that the one has. -/
structure Agree (state other : State) : Prop where
  capacity : state.capacity = other.capacity
  published : state.published = other.published
  failure : state.failure = other.failure
  reported : state.reported = other.reported
  stopRequested : state.stopRequested = other.stopRequested
  unasked : state.stopRequested = false → ∃ phase items journal,
    other = state.varied phase items journal ∧ phase.isRunning = state.listener.isRunning ∧
      state.journal.Sublist journal

/-- Whatever is delivered to two watchers in their runs, they can come to states that agree. -/
structure Equivalent (setup : Setup) (state other : State) : Prop where
  forth : ∀ moves last, run? setup state moves = some last →
    Reaches setup other (delivered moves) fun last' => Agree last last'
  back : ∀ moves last', run? setup other moves = some last' →
    Reaches setup state (delivered moves) fun last => Agree last last'

/-- Watchers of which one is ahead by a payload of which nothing is told agree. -/
theorem Alongside.agree {other : State} (alongside : Alongside payload message state other) :
    Agree state other := by
  cases alongside with
  | together ahead rows =>
      exact ⟨rfl, rfl, rfl, rfl, rfl, fun _ => ⟨_, _, _, rfl, ahead.isRunning, rows⟩⟩
  | parted parted =>
      have stopped := parted.spent.stopRequested
      refine ⟨parted.capacity, parted.published, parted.failure, parted.reported,
        stopped.trans parted.spent'.stopRequested.symm, fun unasked => ?_⟩
      rw [stopped] at unasked
      cases unasked

/-- A payload of which nothing is told makes no difference, wherever it is among those to be read. -/
theorem equivalent_of_inserted (inert : ∃ message, Message.decode payload = .ok message ∧
      (noticeOfMessage setup.filter message).outcome = .ok none)
    {before after : List StreamItem} (unread : state.feed.stream.items = before ++ after) :
    Equivalent setup state
      (state.varied state.listener (before ++ .payload payload :: after) state.journal) := by
  obtain ⟨message, decoded, idle⟩ := inert
  have start : Alongside payload message state
      (state.varied state.listener (before ++ .payload payload :: after) state.journal) :=
    .together (.waiting before after unread) (List.Sublist.refl _)
  constructor
  · intro moves last ran
    have reaches := Reaches.of_run (Alongside payload message)
      (fun _ _ _ _ alongside stepped => alongside.step? decoded idle stepped) start ran
    exact reaches.mono fun _ alongside => alongside.agree
  · intro moves last ran
    have reaches := Reaches.of_run (fun other state => Alongside payload message state other)
      (fun _ _ _ _ alongside stepped => alongside.step?_back decoded idle stepped) start ran
    exact reaches.mono fun _ alongside => alongside.agree

end ContainerWatch.Watcher
