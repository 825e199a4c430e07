import ContainerWatch.Proofs.Engine.Payloads
import ContainerWatch.Proofs.Watcher.Moves
import ContainerWatch.Proofs.Watcher.Runs

/-!
# Payloads that say the same

Two watchers whose streams bring the same messages, though the payloads differ in what is not read,
go the same way move by move.  At every point they have the same notices on their channels, the same
failure on record and the same journal, and their listeners are at the same phase.  So it does not
matter which version of the engine writes the payloads.
-/

namespace ContainerWatch.Watcher

open Engine Journal

/-! ## Streams that bring the same -/

/-- Two items are the same, or payloads that are decoded alike. -/
inductive SameItem : StreamItem → StreamItem → Prop
  | same (item : StreamItem) : SameItem item item
  | payload {payload other : Value} (decoded : Message.decode payload = Message.decode other) :
      SameItem (.payload payload) (.payload other)

/-- What closed streams meet is the same, or payloads that are decoded alike. -/
inductive SameAfterClose : AfterClose → AfterClose → Prop
  | same (afterClose : AfterClose) : SameAfterClose afterClose afterClose
  | payload {payload other : Value} (decoded : Message.decode payload = Message.decode other) :
      SameAfterClose (.payload payload) (.payload other)

/-- Two streams are the same but for what they hold, and that is the same to the listener. -/
structure SameStream (stream other : Stream) : Prop where
  items : List.Forall₂ SameItem stream.items other.items
  afterClose : SameAfterClose stream.afterClose other.afterClose
  rest : other = { stream with items := other.items, afterClose := other.afterClose }

/-- Two streams that hold the same are read alike, and then hold the same again. -/
theorem SameStream.read {stream other : Stream} (same : SameStream stream other) :
    Feed.ofReading other.read.1 = Feed.ofReading stream.read.1 ∧
      SameStream stream.read.2 other.read.2 := by
  obtain ⟨items, afterClose, closed, closes, closeFault, recorded⟩ := stream
  obtain ⟨unread, last, rest⟩ := same
  generalize other.items = items' at unread rest
  generalize other.afterClose = afterClose' at last rest
  subst rest
  by_cases shut : (closed && !recorded) = true
  · -- What is still on a closed stream is out of reach.
    simp only [Stream.read, shut, if_true, Stream.readClosed]
    cases last with
    | same => cases afterClose <;> exact ⟨rfl, unread, .same _, rfl⟩
    | payload decoded =>
        exact ⟨by simp only [Feed.ofReading, Feed.decode, decoded], unread, .same _, rfl⟩
  · simp only [Stream.read, shut, Bool.false_eq_true, if_false, Stream.readItem]
    cases unread with
    | nil => exact ⟨rfl, .nil, last, rfl⟩
    | cons first unread =>
        refine ⟨?_, unread, last, rfl⟩
        cases first with
        | same => rfl
        | payload decoded => simp only [Stream.reading, Feed.ofReading, Feed.decode, decoded]

/-! ## States that differ in their streams -/

/-- Two states are the same but for what their streams hold, and that is the same to the listener. -/
structure Alike (state other : State) : Prop where
  stream : SameStream state.feed.stream other.feed.stream
  rest : other = state.feeding other.feed.stream.items other.feed.stream.afterClose

/-- Two moves are the same, or deliver items that are the same to the listener. -/
inductive SameMove : Move → Move → Prop
  | same (move : Move) : SameMove move move
  | deliver {item other : StreamItem} (same : SameItem item other) :
      SameMove (.deliver item) (.deliver other)

variable {setup : Setup} {state other next : State} {move move' : Move} {moves moves' : List Move}
  {items : List StreamItem} {afterClose : AfterClose}

/-- What a stream holds is of no account to a move of anybody but the listener and the engine. -/
theorem step?_feeding (others : move ≠ .listen) (undelivered : deliveredBy move = []) :
    Watcher.step? setup (state.feeding items afterClose) move
      = (Watcher.step? setup state move).map (·.feeding items afterClose) := by
  cases move with
  | listen => exact absurd rfl others
  | deliver item => cases undelivered
  | take =>
      simp only [Watcher.step?, State.take?, State.feeding]
      cases state.channel <;> rfl
  | callStop => rfl
  | stop call =>
      simp only [Watcher.step?, State.feeding]
      cases state.stops[call]? with
      | none => rfl
      | some phase =>
          cases phase with
          | closingStream =>
              simp only [stopStep, closeForStop, State.closeStream]
              cases (Feed.afterClosing state.feed.stream.closeFault).outcome <;> rfl
          | _ => rfl
  | openReader =>
      cases idle : state.reader.all (·.isDone) <;>
        simp [Watcher.step?, State.feeding, State.readerAt, idle]
  | read =>
      simp only [Watcher.step?, State.feeding]
      cases found : state.reader with
      | none => rfl
      | some phase =>
          cases phase with
          | polling =>
              simp only [readStep, poll, State.take?]
              cases waiting : state.channel <;> simp [State.readerAt, waiting]
          | sawFailure failure => rfl
          | _ => simp [readStep, State.readerAt, found]
  | closeReader =>
      simp only [Watcher.step?, State.feeding]
      split <;> rfl

theorem listen_feeding (elsewhere : state.listener ≠ .reading) :
    listen setup (state.feeding items afterClose)
      = (listen setup state).feeding items afterClose := by
  unfold listen
  cases phase : state.listener with
  | reading => exact absurd phase elsewhere
  | subscribing => cases setup.subscription <;> simp [State.feeding, State.listenerAt, phase]
  | accepted message =>
      simp only [interpret, State.feeding, phase]
      cases (Sighting.noticeOfMessage setup.filter message).outcome with
      | error fault => rfl
      | ok told => cases told <;> rfl
  | putting notice =>
      by_cases room : state.channel.length < state.capacity <;>
        simp [State.hasRoom, State.feeding, State.listenerAt, State.put, room, phase]
  | closingStream ending =>
      simp only [closeAtEnd, State.closeStream, State.feeding, phase]
      cases (Feed.afterClosing state.feed.stream.closeFault).outcome <;> rfl
  | finishing ending =>
      cases ending <;> cases stopping : state.stopRequested <;>
        simp [finish, State.listenerAt, State.note, State.write, State.feeding, stopping, phase]
  | reporting failure =>
      simp only [reportFailure, State.feeding, phase]
      cases setup.callback <;> rfl
  | _ => simp [recordFailure, State.markClosed, State.listenerAt, State.note, State.write,
      State.feeding, phase]

theorem State.feeding_self (state : State) :
    state.feeding state.feed.stream.items state.feed.stream.afterClose = state := rfl

/-- A move after which the stream holds what it held before keeps states alike. -/
theorem Alike.of_step?_feeding (alike : Alike state other)
    (commutes : ∀ items afterClose, Watcher.step? setup (state.feeding items afterClose) move
      = (Watcher.step? setup state move).map (·.feeding items afterClose))
    (stepped : Watcher.step? setup state move = some next) :
    ∃ later, Watcher.step? setup other move = some later ∧ Alike next later := by
  obtain ⟨same, rest⟩ := alike
  have own := commutes state.feed.stream.items state.feed.stream.afterClose
  have its := commutes other.feed.stream.items other.feed.stream.afterClose
  rw [State.feeding_self, stepped, Option.map_some, Option.some.injEq] at own
  rw [← rest, stepped, Option.map_some] at its
  refine ⟨_, its, ?_, rfl⟩
  have held : next.feed.stream.items = state.feed.stream.items ∧
      next.feed.stream.afterClose = state.feed.stream.afterClose := by
    rw [own]
    exact ⟨rfl, rfl⟩
  refine ⟨?_, ?_, rfl⟩
  · rw [held.1]
    exact same.items
  · rw [held.2]
    exact same.afterClose

theorem readFeed_alike (alike : Alike state other) : Alike (readFeed state) (readFeed other) := by
  obtain ⟨same, rest⟩ := alike
  obtain ⟨step, later⟩ := same.read
  obtain ⟨items, afterClose, rfl⟩ : ∃ items afterClose, other = state.feeding items afterClose :=
    ⟨_, _, rest⟩
  have onward (phase : Listener) := congrArg
    (fun stream => { state with listener := phase, feed := ⟨stream, state.feed.closed⟩ }) later.rest
  simp only [readFeed, Feed.read, step]
  cases Feed.ofReading state.feed.stream.read.1 <;> exact ⟨later, onward _⟩

/-- Whatever an engine delivers that is the same to the listener keeps states alike. -/
theorem Alike.deliver (alike : Alike state other) {item item' : StreamItem}
    (same : SameItem item item') :
    ∃ later, Watcher.step? setup other (.deliver item') = some later ∧
      Alike (state.feeding (state.feed.stream.items ++ [item]) state.feed.stream.afterClose) later := by
  obtain ⟨⟨unread, last, -⟩, rest⟩ := alike
  generalize other.feed.stream.items = items at unread rest
  generalize other.feed.stream.afterClose = afterClose at last rest
  subst rest
  exact ⟨state.feeding (items ++ [item']) afterClose, rfl,
    ⟨List.rel_append unread (.cons same .nil), last, rfl⟩, rfl⟩

/-- Watchers that are alike remain so when the same moves are made, or such as deliver the same to the
    listener. -/
theorem Alike.step? (alike : Alike state other) (same : SameMove move move')
    (stepped : Watcher.step? setup state move = some next) :
    ∃ later, Watcher.step? setup other move' = some later ∧ Alike next later := by
  cases same with
  | deliver same =>
      cases stepped
      exact alike.deliver same
  | same =>
      rcases move.listener_engine_or_other with rfl | ⟨item, rfl⟩ | ⟨others, undelivered⟩
      · by_cases reading : state.listener = .reading
        · cases stepped
          have phase : other.listener = .reading := by
            rw [alike.rest]
            exact reading
          refine ⟨_, rfl, ?_⟩
          simp only [listen, reading, phase]
          exact readFeed_alike alike
        · exact alike.of_step?_feeding (fun _ _ => congrArg some (listen_feeding reading)) stepped
      · cases stepped
        exact alike.deliver (.same item)
      · exact alike.of_step?_feeding (fun _ _ => step?_feeding others undelivered) stepped

/-- Watchers that are alike have the same runs. -/
theorem Alike.run? (alike : Alike state other) (same : List.Forall₂ SameMove moves moves')
    (ran : Watcher.run? setup state moves = some next) :
    ∃ later, Watcher.run? setup other moves' = some later ∧ Alike next later := by
  induction same generalizing state other with
  | nil =>
      cases ran
      exact ⟨other, rfl, alike⟩
  | cons first _ ih =>
      obtain ⟨middle, stepped, ran⟩ := run?_cons.mp ran
      obtain ⟨middle', stepped', alike⟩ := alike.step? first stepped
      obtain ⟨later, ran', alike⟩ := ih alike ran
      exact ⟨later, run?_cons.mpr ⟨middle', stepped', ran'⟩, alike⟩

/-! ## Opened watchers -/

/-- The second watcher is opened as the first one is, and the two remain alike whatever is done with
    them. -/
structure OpensInStep (opening other : Opening) : Prop where
  listings : other.listings = opening.listings
  entries : other.report.entries = opening.report.entries
  fails : ∀ fault, opening.report.outcome = .error fault → other.report.outcome = .error fault
  opens : ∀ watch, opening.report.outcome = .ok watch → ∃ watch',
    other.report.outcome = .ok watch' ∧ watch'.setup = watch.setup ∧
      Alike watch.state watch'.state ∧
      ∀ moves moves' last, List.Forall₂ SameMove moves moves' →
        Watcher.run? watch.setup watch.state moves = some last →
        ∃ last', Watcher.run? watch'.setup watch'.state moves' = some last' ∧ Alike last last'

/-- Watchers whose streams hold the same are opened alike, and remain so. -/
theorem opensInStep_of_sameItems (options : Options) {client : Client}
    (same : List.Forall₂ SameItem client.items items)
    (last : SameAfterClose client.afterClose afterClose) :
    OpensInStep (openWith options client)
      (openWith options { client with items := items, afterClose := afterClose }) := by
  obtain ⟨listings, report⟩ := openWith_feeding options client items afterClose
  refine ⟨listings, by rw [report], fun fault failed => ?_, fun watch opened => ?_⟩
  · rw [report, failed]
    rfl
  · have alike : Alike watch.state (watch.state.feeding items afterClose) := by
      obtain ⟨_, _, _, _, _, _, _, fresh⟩ := openWith_eq_ok opened
      rw [fresh]
      exact ⟨⟨same, last, rfl⟩, rfl⟩
    refine ⟨watch.feeding items afterClose, ?_, rfl, alike, fun moves moves' last same ran =>
      alike.run? same ran⟩
    rw [report, opened]
    rfl

/-- It makes no difference which version of the engine writes the payloads, nor what else they hold.
    What a payload says under an older key and elsewhere again can be left out.  A payload is decoded
    from the keys that are read alone, so anything may be put or left out under other keys of it or of
    its actor.  And watchers whose streams hold payloads that are decoded alike, from the start or
    as they are delivered, go the same way: they are opened alike, the same moves can be made, and
    thereafter nothing differs but what the streams still hold. -/
theorem versions_tell_the_same :
    (∀ payload names, Redundant payload → (∀ name ∈ names, name ∈ legacyKeys) →
      Message.decode (.dict (payload.without names)) = Message.decode (.dict payload)) ∧
    (∀ payload other, ReadAlike payload other →
      Message.decode (.dict payload) = Message.decode (.dict other)) ∧
    (∀ payload name value, name ∉ "Actor" :: payloadKeys →
      ReadAlike payload (payload.put (.text name) value) ∧
      ReadAlike payload (payload.without [name])) ∧
    (∀ payload actor name value, actorIn payload = .ok actor → name ∉ actorKeys →
      ReadAlike payload (withActor payload (actor.put (.text name) value)) ∧
      ReadAlike payload (withActor payload (actor.without [name]))) ∧
    ∀ options client items afterClose, List.Forall₂ SameItem client.items items →
      SameAfterClose client.afterClose afterClose →
      OpensInStep (openWith options client)
        (openWith options { client with items := items, afterClose := afterClose }) := by
  refine ⟨?_, ?_, ?_, ?_, ?_⟩
  · intro payload names redundant legacy
    exact redundant.decode_without legacy
  · intro payload other alike
    exact alike.decode
  · intro payload name value unread
    obtain ⟨actor, others⟩ : name ≠ "Actor" ∧ name ∉ payloadKeys := by
      simpa only [List.mem_cons, not_or] using unread
    constructor
    · exact readAlike_of_actor (Entries.agreeOn_put payload value others)
        (Entries.getNull_put_of_ne payload value actor)
    · refine readAlike_of_actor (Entries.agreeOn_without payload (by simpa using others)) ?_
      rw [Entries.getNull_without, if_neg (by simpa using actor.symm)]
  · intro payload actor name value found unread
    constructor
    · exact readAlike_withActor found (Entries.agreeOn_put actor value unread)
    · exact readAlike_withActor found (Entries.agreeOn_without actor (by simpa using unread))
  · intro options client items afterClose same last
    exact opensInStep_of_sameItems options same last

/-- A message that a container was started, as an older engine writes it. -/
def olderPayload : Entries := [
  (.text "status", .text "start"), (.text "id", .text "c1"), (.text "from", .text "hub/shop/web:1"),
  (.text "Type", .text "container"), (.text "Action", .text "start"),
  (.text "Actor", .dict [(.text "ID", .text "c1"), (.text "Attributes", .dict
    [(.text "image", .text "hub/shop/web:1"), (.text "name", .text "web")])]),
  (.text "time", .int 60)]

/-- What an older and a newer engine write of a container is published alike. -/
theorem versions_tell_the_same_of_example :
    Redundant olderPayload ∧
    Message.decode (.dict (olderPayload.without legacyKeys)) = Message.decode (.dict olderPayload) ∧
    Message.decode (.dict olderPayload)
      = Message.decode (.dict (olderPayload.put (.text "scope") (.text "local"))) ∧
    Message.decode (.dict olderPayload)
      = Message.decode (.dict (withActor olderPayload [(.text "ID", .text "c1"), (.text "Attributes",
          .dict [(.text "image", .text "hub/shop/web:1"), (.text "name", .text "web")]),
          (.text "scope", .text "local")])) ∧
    ∃ watch watch' last last',
      (openWith exampleOptions { items := [.payload (.dict olderPayload), .finish] }).report.outcome
        = .ok watch ∧
      (openWith exampleOptions { items :=
        [.payload (.dict (olderPayload.without legacyKeys)), .finish] }).report.outcome = .ok watch' ∧
      Watcher.run? watch.setup watch.state (List.replicate 9 .listen) = some last ∧
      Watcher.run? watch'.setup watch'.state (List.replicate 9 .listen) = some last' ∧
      last.channel.length = 1 ∧ last'.channel = last.channel := by
  obtain ⟨leaves, reads, keys, actors, opens⟩ := versions_tell_the_same
  have redundant : Redundant olderPayload := by
    refine ⟨rfl, ?_, ?_⟩
    · rintro _ ⟨⟩
      rfl
    · rintro _ _ ⟨⟩ ⟨⟩
      rfl
  have decoded := leaves olderPayload legacyKeys redundant fun _ member => member
  have same : List.Forall₂ SameItem [.payload (.dict olderPayload), .finish]
      [.payload (.dict (olderPayload.without legacyKeys)), .finish] :=
    .cons (.payload decoded.symm) (.cons (.same _) .nil)
  have opened := opens exampleOptions { items := [.payload (.dict olderPayload), .finish] } _ .finish
    same (.same _)
  obtain ⟨watch', opened', _, _, runs⟩ := opened.opens _ rfl
  obtain ⟨last', ran, alike⟩ := runs (List.replicate 9 .listen) (List.replicate 9 .listen) _
    (List.forall₂_same.mpr fun move _ => .same move) rfl
  refine ⟨redundant, decoded, ?_, ?_, _, watch', _, last', rfl, opened', rfl, ran, rfl, ?_⟩
  · exact reads _ _ (keys olderPayload "scope" (.text "local") (by decide)).1
  · exact reads _ _ (actors olderPayload _ "scope" (.text "local") rfl (by decide)).1
  · rw [alike.rest]
    rfl

end ContainerWatch.Watcher
