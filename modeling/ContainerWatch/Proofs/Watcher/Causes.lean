import ContainerWatch.Proofs.Watcher.Feeds

/-!
# What a failure tells

The failure of a listener tells how its listening ended: in the fault of the subscription, in the
fault in which the reading or the telling of an item ended, or with the end of the feed.  Between
that end and the record the listener closes the stream.  A fault of closing that is one of the engine
or of the operating system is only noted; any other takes the place of what was before.
-/

namespace ContainerWatch.Watcher

open Engine Sighting

variable {setup : Setup} {state next : State} {move : Move} {moves : List Move}
  {filter : NameFilter} {closeFault : Option Fault} {script unread more : List StreamItem}
  {ending : Ending} {failure : Fault}

/-! ## How a script ends -/

/-- How an item of the stream ends the reading of an open feed.  A payload that is told does not. -/
def itemEnding (filter : NameFilter) : StreamItem → Option Ending
  | .finish => some .finished
  | .failure fault => some (Feed.endingOf false fault)
  | .payload payload =>
      match Message.decode payload with
      | .error error => some (Feed.endingOf false error.fault)
      | .ok message =>
          match (noticeOfMessage filter message).outcome with
          | .error fault => some (.failed fault)
          | .ok _ => none

/-- How the items of a script end the reading: the first that ends it does. -/
def scriptEnding (filter : NameFilter) (script : List StreamItem) : Option Ending :=
  script.findSome? (itemEnding filter)

/-- What becomes of an ending when the stream is closed. -/
def closedEnding (closeFault : Option Fault) (ending : Ending) : Ending :=
  match (Feed.afterClosing closeFault).outcome with
  | .ok () => ending
  | .error fault => .failed fault

/-- The failure that is recorded of an ending: the text of its fault is the reason and the fault the
    cause; where there is none the reason is that the feed has ended. -/
def failureOf : Ending → Fault
  | .finished => .listening (.text terminatedReason) none
  | .failed fault => .listening (.text fault.text) (some fault)

/-- How listening to a script ends: with the fault of the subscription, or as the script and then the
    closing of the stream have it. -/
def Concludes (setup : Setup) (closeFault : Option Fault) (script : List StreamItem)
    (ending : Ending) : Prop :=
  match setup.subscription with
  | .error fault => ending = .failed fault
  | .ok () => ∃ last, scriptEnding setup.filter script = some last ∧
      ending = closedEnding closeFault last

/-- Listening to a script ends in a failure, which is that of its ending. -/
def EndsIn (setup : Setup) (closeFault : Option Fault) (script : List StreamItem)
    (failure : Fault) : Prop :=
  ∃ ending, Concludes setup closeFault script ending ∧ failure = failureOf ending

theorem scriptEnding_append (ends : scriptEnding filter script = some ending) :
    scriptEnding filter (script ++ more) = some ending := by
  rw [scriptEnding, List.findSome?_append]
  rw [scriptEnding] at ends
  rw [ends, Option.some_or]

theorem scriptEnding_of_item {told : List StreamItem} {item : StreamItem}
    (none : scriptEnding filter told = none) (ends : itemEnding filter item = some ending) :
    scriptEnding filter (told ++ item :: unread) = some ending := by
  rw [scriptEnding] at none ⊢
  rw [List.findSome?_append, none, Option.none_or, List.findSome?_cons, ends]

theorem scriptEnding_snoc {told : List StreamItem} {item : StreamItem}
    (none : scriptEnding filter told = none) (goes : itemEnding filter item = Option.none) :
    scriptEnding filter (told ++ [item]) = Option.none := by
  rw [scriptEnding] at none ⊢
  rw [List.findSome?_append, none, Option.none_or, List.findSome?_cons, goes, List.findSome?_nil]

/-- Closing that goes well, or ends in a fault that is only noted, leaves an ending as it is. -/
theorem closedEnding_of_quiet (quiet : ∀ fault, closeFault = some fault → fault.kind.isTransport = true)
    (ending : Ending) : closedEnding closeFault ending = ending := by
  unfold closedEnding Feed.afterClosing
  cases closeFault with
  | none => rfl
  | some fault => simp [quiet fault rfl]

theorem closedEnding_of_loud {fault : Fault} (loud : fault.kind.isTransport = false)
    (ending : Ending) : closedEnding (some fault) ending = .failed fault := by
  simp [closedEnding, Feed.afterClosing, loud]

/-- How listening ends does not depend on items behind the one that ends it. -/
theorem Concludes.append (concludes : Concludes setup closeFault script ending) :
    Concludes setup closeFault (script ++ more) ending := by
  unfold Concludes at concludes ⊢
  split
  case h_1 fault refused => simpa only [refused] using concludes
  case h_2 subscribed =>
    simp only [subscribed] at concludes
    obtain ⟨last, ends, rfl⟩ := concludes
    exact ⟨last, scriptEnding_append ends, rfl⟩

theorem EndsIn.append (endsIn : EndsIn setup closeFault script failure) :
    EndsIn setup closeFault (script ++ more) failure := by
  obtain ⟨ending, concludes, rfl⟩ := endsIn
  exact ⟨ending, concludes.append, rfl⟩

/-! ## How far the listener has come -/

/-- Whether the listener has a feed, and has not closed it. -/
def Listener.holdsFeed : Listener → Bool
  | starting | subscribing => false
  | finishing _ | recording .. | reporting _ | leaving | exited => false
  | _ => true

/-- Whether the listener has not marked the feed as closed. -/
def Listener.leavesOpen : Listener → Bool
  | closingStream _ | finishing _ | recording .. | reporting _ | leaving | exited => false
  | _ => true

/-- Where a listener is in a script of which it has not read some items: those before them are told,
    but for one that it has in its hands, or one of them has ended the reading. -/
def Placed (setup : Setup) (closeFault : Option Fault) (script unread : List StreamItem) :
    Listener → Prop
  | .received message | .accepted message =>
      ∃ told payload, script = told ++ .payload payload :: unread ∧
        scriptEnding setup.filter told = none ∧ Message.decode payload = .ok message
  | .broken fault =>
      ∃ told item, script = told ++ item :: unread ∧ scriptEnding setup.filter told = none ∧
        itemEnding setup.filter item = some (Feed.endingOf false fault)
  | .closing ending | .marking ending | .closingStream ending =>
      scriptEnding setup.filter script = some ending
  | .finishing ending => Concludes setup closeFault script ending
  | .recording .. | .reporting _ | .leaving | .exited => True
  | _ => ∃ told, script = told ++ unread ∧ scriptEnding setup.filter told = none

/-- A listener that follows a script, as it does until it is asked to stop. -/
structure Follows (setup : Setup) (closeFault : Option Fault) (script : List StreamItem)
    (state : State) : Prop where
  subscribed : state.listener.holdsFeed = true → setup.subscription = .ok ()
  opened : state.listener.leavesOpen = true →
    state.feed.closed = false ∧ state.feed.stream.closed = false
  placed : Placed setup closeFault script state.feed.stream.items state.listener

/-- The listener follows the script unless it was asked to stop, and the failure that it decides to
    record, or has recorded, is that of the script's ending. -/
structure Traced (setup : Setup) (closeFault : Option Fault) (script : List StreamItem)
    (state : State) : Prop where
  follows : state.stopRequested = false → Follows setup closeFault script state
  decided : ∀ reason cause, state.listener = .recording reason cause →
    EndsIn setup closeFault script (.listening (.text reason) cause)
  recorded : ∀ failure, state.failure = some failure → EndsIn setup closeFault script failure

/-- An item at the end of the stream is one more of the script. -/
theorem Placed.deliver {phase : Listener} (placed : Placed setup closeFault script unread phase) :
    Placed setup closeFault (script ++ more) (unread ++ more) phase := by
  cases phase with
  | received message | accepted message =>
      obtain ⟨told, payload, rfl, none, decoded⟩ := placed
      exact ⟨told, payload, by simp, none, decoded⟩
  | broken fault =>
      obtain ⟨told, item, rfl, none, ends⟩ := placed
      exact ⟨told, item, by simp, none, ends⟩
  | closing ending | marking ending | closingStream ending => exact scriptEnding_append placed
  | finishing ending => exact Concludes.append placed
  | recording _ _ | reporting _ | leaving | exited => trivial
  | _ =>
      obtain ⟨told, rfl, none⟩ := placed
      exact ⟨told, List.append_assoc .., none⟩

/-! ## The listener's part -/

/-- A listener that reads an open feed has the next item in its hands, or the item ends the
    reading. -/
theorem placed_read (live : state.feed.stream.recorded = false)
    (opened : state.feed.stream.closed = false) (reading : state.listener = .reading)
    (placed : Placed setup closeFault script state.feed.stream.items .reading) :
    Placed setup closeFault script state.feed.stream.read.2.items (nextPhase setup state) := by
  obtain ⟨told, split, untold⟩ := placed
  simp only [nextPhase, reading]
  cases holds : state.feed.stream.items with
  | nil =>
      rw [read_of_empty opened live holds]
      exact ⟨told, split, untold⟩
  | cons item items =>
      rw [read_of_item opened holds]
      rw [holds] at split
      cases item with
      | finish => exact split ▸ scriptEnding_of_item untold rfl
      | failure fault => exact ⟨told, _, split, untold, rfl⟩
      | payload payload =>
          simp only [Stream.reading, Feed.ofReading, Feed.decode]
          cases decoded : Message.decode payload with
          | ok message => exact ⟨told, payload, split, untold, decoded⟩
          | error error => exact ⟨told, _, split, untold, by simp [itemEnding, decoded]⟩

/-- A listener that tells a message goes on with the items behind it, or telling ends the
    reading. -/
theorem placed_interpret {message : Message} (accepted : state.listener = .accepted message)
    (placed : Placed setup closeFault script unread (.accepted message)) :
    Placed setup closeFault script unread (nextPhase setup state) := by
  obtain ⟨told, payload, rfl, untold, decoded⟩ := placed
  simp only [nextPhase, accepted]
  cases tells : (noticeOfMessage setup.filter message).outcome with
  | error fault => exact scriptEnding_of_item untold (by simp [itemEnding, decoded, tells])
  | ok notice =>
      have goes : itemEnding setup.filter (.payload payload) = none := by
        simp [itemEnding, decoded, tells]
      have further := scriptEnding_snoc untold goes
      cases notice with
      | none => exact ⟨told ++ [.payload payload], by simp, further⟩
      | some notice => exact ⟨told ++ [.payload payload], by simp, further⟩

/-- A listener that closes the stream comes to look a last time with what is left of the script's
    ending. -/
theorem placed_closeAtEnd (subscribed : setup.subscription = .ok ())
    (closing : state.listener = .closingStream ending)
    (placed : scriptEnding setup.filter script = some ending) :
    Placed setup state.feed.stream.closeFault script unread (nextPhase setup state) := by
  have concludes : Concludes setup state.feed.stream.closeFault script
      (closedEnding state.feed.stream.closeFault ending) := by
    simp only [Concludes, subscribed]
    exact ⟨ending, placed, rfl⟩
  simp only [nextPhase, closing]
  cases outcome : (Feed.afterClosing state.feed.stream.closeFault).outcome with
  | ok _ | error _ =>
      simp only [closedEnding, outcome] at concludes
      exact concludes

/-- A step of the listener follows the script, unless a stop was requested. -/
theorem placed_listen (live : state.feed.stream.recorded = false)
    (unrequested : state.stopRequested = false)
    (follows : Follows setup state.feed.stream.closeFault script state) :
    Placed setup state.feed.stream.closeFault script (feedAfter state).stream.items
      (nextPhase setup state) := by
  obtain ⟨subscribed, opened, placed⟩ := follows
  cases phase : state.listener with
  | reading =>
      rw [phase] at opened placed
      simpa only [feedAfter, phase] using placed_read live (opened rfl).2 phase placed
  | accepted message =>
      rw [phase] at placed
      simpa only [feedAfter, phase] using placed_interpret phase placed
  | broken fault =>
      rw [phase] at opened placed
      obtain ⟨told, item, rfl, untold, ends⟩ := placed
      simp only [nextPhase, phase, (opened rfl).1]
      exact scriptEnding_of_item untold ends
  | closing ending =>
      rw [phase] at opened placed
      simp only [nextPhase, phase, (opened rfl).1]
      exact placed
  | closingStream ending =>
      rw [phase] at subscribed placed
      exact placed_closeAtEnd (subscribed rfl) phase placed
  | subscribing =>
      rw [phase] at placed
      simp only [nextPhase, feedAfter, phase]
      cases subscription : setup.subscription with
      | ok _ => exact placed
      | error fault => simp [Placed, Concludes, subscription]
  | finishing ending =>
      simp only [nextPhase, phase, unrequested]
      cases ending <;> trivial
  | putting notice =>
      rw [phase] at placed
      simp only [nextPhase, feedAfter, phase]
      cases state.hasRoom <;> exact placed
  | recording _ _ | reporting _ | leaving | exited => simp [nextPhase, phase, Placed]
  | _ =>
      rw [phase] at placed
      simp only [nextPhase, feedAfter, phase, unrequested]
      exact placed

theorem subscribed_listen
    (subscribed : state.listener.holdsFeed = true → setup.subscription = .ok ())
    (holds : (nextPhase setup state).holdsFeed = true) : setup.subscription = .ok () := by
  cases phase : state.listener with
  | subscribing =>
      cases subscription : setup.subscription with
      | ok _ => rfl
      | error fault => simp [nextPhase, phase, subscription, Listener.holdsFeed] at holds
  | starting => simp [nextPhase, phase, Listener.holdsFeed] at holds
  | finishing ending =>
      simp only [nextPhase, phase] at holds
      (repeat' split at holds) <;> cases holds
  | recording _ _ | reporting _ | leaving | exited =>
      simp [nextPhase, phase, Listener.holdsFeed] at holds
  | _ => exact subscribed (by rw [phase]; rfl)

/-- A listener leaves the feed open until it goes to close it. -/
theorem opened_listen
    (opened : state.listener.leavesOpen = true →
      state.feed.closed = false ∧ state.feed.stream.closed = false)
    (leaves : (nextPhase setup state).leavesOpen = true) :
    (feedAfter state).closed = false ∧ (feedAfter state).stream.closed = false := by
  have earlier : state.listener.leavesOpen = true ∧ ∀ ending, state.listener ≠ .marking ending := by
    cases phase : state.listener with
    | closingStream ending | finishing ending =>
        simp only [nextPhase, phase] at leaves
        (repeat' split at leaves) <;> cases leaves
    | marking ending => simp [nextPhase, phase, Listener.leavesOpen] at leaves
    | recording _ _ | reporting _ | leaving | exited =>
        simp [nextPhase, phase, Listener.leavesOpen] at leaves
    | _ => exact ⟨rfl, by simp⟩
  obtain ⟨unmarked, unclosed⟩ := opened earlier.1
  unfold feedAfter
  split
  case h_1 => exact ⟨unmarked, (read_closed _).trans unclosed⟩
  case h_2 ending marking => exact absurd marking (earlier.2 ending)
  case h_3 ending closing => simp [closing, Listener.leavesOpen] at earlier
  case h_4 => exact ⟨unmarked, unclosed⟩

/-- Only an ending that no stop has forestalled is decided to be recorded. -/
theorem endsIn_listen (traced : Traced setup state.feed.stream.closeFault script state)
    {reason : String} {cause : Option Fault}
    (decides : nextPhase setup state = .recording reason cause) :
    EndsIn setup state.feed.stream.closeFault script (.listening (.text reason) cause) := by
  cases phase : state.listener with
  | finishing ending =>
      cases requested : state.stopRequested with
      | true => simp [nextPhase, phase, requested] at decides
      | false =>
          have placed := (traced.follows requested).placed
          rw [phase] at placed
          refine ⟨ending, placed, ?_⟩
          simp only [nextPhase, phase, requested] at decides
          cases ending <;> cases decides <;> rfl
  | _ =>
      simp only [nextPhase, phase] at decides
      (repeat' split at decides) <;> cases decides

/-- A step of the listener keeps the failure traced. -/
theorem traced_listen (live : state.feed.stream.recorded = false)
    (traced : Traced setup state.feed.stream.closeFault script state) :
    Traced setup state.feed.stream.closeFault script (listen setup state) where
  follows := by
    intro unrequested
    rw [listen_stopRequested] at unrequested
    have follows := traced.follows unrequested
    refine ⟨?_, ?_, ?_⟩
    · rw [listen_listener]
      exact subscribed_listen follows.subscribed
    · rw [listen_listener, listen_feed]
      exact opened_listen follows.opened
    · rw [listen_listener, listen_feed]
      exact placed_listen live unrequested follows
  decided := by
    intro reason cause decides
    rw [listen_listener] at decides
    exact endsIn_listen traced decides
  recorded := by
    intro failure recorded
    rw [listen_failure, failureAfter] at recorded
    split at recorded
    case h_1 reason cause recording =>
      cases recorded
      exact traced.decided reason cause recording
    case h_2 => exact traced.recorded failure recorded

/-! ## Whole runs -/

/-- Until a stop is requested nobody but the engine and the listener does anything to the feed. -/
theorem feed_of_unrequested (arranged : Arranged setup state) (other : move ≠ .listen)
    (stepped : step? setup state move = some next) (unrequested : next.stopRequested = false) :
    next.feed = { state.feed with
      stream := { state.feed.stream with
        items := state.feed.stream.items ++ deliveredBy move } } := by
  have same : state.feed = { state.feed with
      stream := { state.feed.stream with items := state.feed.stream.items ++ [] } } := by
    rw [List.append_nil]
  rw [feed_of_step? stepped]
  cases move with
  | listen => exact absurd rfl other
  | deliver item => rfl
  | stop call =>
      obtain ⟨phase, found, rfl⟩ := Option.map_eq_some_iff.mp stepped
      obtain ⟨journal, eq⟩ := stopStep_eq found
      rw [eq] at unrequested
      cases phase with
      | called => cases unrequested
      | _ =>
          have requested := arranged.requested _ (List.mem_of_getElem? found) nofun
          exact absurd (requested.symm.trans unrequested) nofun
  | _ => exact same

/-- A move of anybody else keeps the failure traced. -/
theorem traced_of_beside (arranged : Arranged setup state) (other : move ≠ .listen)
    (stepped : step? setup state move = some next) (traced : Traced setup closeFault script state) :
    Traced setup closeFault (script ++ deliveredBy move) next := by
  have beside := beside_of_step? stepped other
  refine ⟨?_, ?_, ?_⟩
  · intro unrequested
    have earlier : state.stopRequested = false := by
      rw [Bool.eq_false_iff]
      intro requested
      rw [beside.stopRequested requested] at unrequested
      cases unrequested
    obtain ⟨subscribed, opened, placed⟩ := traced.follows earlier
    have feed := feed_of_unrequested arranged other stepped unrequested
    refine ⟨?_, ?_, ?_⟩
    · rwa [beside.listener]
    · rwa [beside.listener, feed]
    · rw [beside.listener, feed]
      exact placed.deliver
  · intro reason cause decided
    rw [beside.listener] at decided
    exact (traced.decided reason cause decided).append
  · intro failure recorded
    rw [beside.failure] at recorded
    exact (traced.recorded failure recorded).append

section Opened

variable {options : Options} {client : Client} {watch : Watch}

/-- The failure of an opened watcher is traced to the script of its stream wherever a run has come
    to. -/
theorem traced_of_run (opened : (openWith options client).report.outcome = .ok watch)
    (ran : run? watch.setup watch.state moves = some state) :
    Traced watch.setup client.streamCloseFault (client.items ++ delivered moves) state := by
  obtain ⟨_, snapshot, _, _, _, _, _, start⟩ := openWith_eq_ok opened
  refine run?_induction (motive := fun moves state => Traced watch.setup client.streamCloseFault
    (client.items ++ delivered moves) state) ?_ ?_ ran
  · have nothing : scriptEnding watch.setup.filter [] = none := rfl
    rw [start]
    refine ⟨fun _ => ⟨nofun, fun _ => ⟨rfl, rfl⟩, ?_⟩, nofun, nofun⟩
    exact ⟨[], by simp [delivered, State.initial, Feed.ofStream, Client.stream, Stream.fresh], nothing⟩
  · intro before state move next ran traced stepped
    obtain ⟨closeFault, live⟩ := settled_of_run opened ran
    have more : delivered (before ++ [move]) = delivered before ++ deliveredBy move := by
      simp [delivered]
    rw [more, ← List.append_assoc]
    by_cases own : move = .listen
    · subst own
      cases stepped
      rw [← closeFault] at traced ⊢
      simpa only [deliveredBy, List.append_nil] using traced_listen live traced
    · exact traced_of_beside (arranged_of_run opened ran) own stepped traced

/-- What the failure on record tells.  A listener that has exited without a request to stop has
    recorded one.  If there is no subscription, it tells the fault of subscribing.  Otherwise the
    items that were on the stream and were put there have ended the reading, and it tells how: with
    the end of the feed, or in the fault in which reading or telling an item ended.  It tells so
    unless closing the stream ended in a fault that is neither one of the engine nor one of the
    operating system, in which case it tells that fault instead. -/
theorem failure_tells_ending_unless_closing_fails
    (opened : (openWith options client).report.outcome = .ok watch)
    (ran : run? watch.setup watch.state moves = some state) :
    (state.listener = .exited → state.stops = [] ∨ state.stopRequested = false →
      state.failure.isSome = true) ∧
    ∀ failure, state.failure = some failure →
      (∀ fault, client.subscribe = .error fault → failure = failureOf (.failed fault)) ∧
      (client.subscribe = .ok () → ∃ ending,
        scriptEnding watch.setup.filter (client.items ++ delivered moves) = some ending ∧
        ((∀ fault, client.streamCloseFault = some fault → fault.kind.isTransport = true) →
          failure = failureOf ending) ∧
        ∀ fault, client.streamCloseFault = some fault → fault.kind.isTransport = false →
          failure = failureOf (.failed fault)) := by
  obtain ⟨_, _, _, _, _, subscription, _, _⟩ := openWith_eq_ok opened
  refine ⟨?_, ?_⟩
  · intro exited unasked
    have unrequested : state.stopRequested = false :=
      unasked.elim (unrequested_of_run opened ran) id
    rw [Option.isSome_iff_ne_none]
    intro unrecorded
    have requested := (unrecorded_of_lawful (lawful_of_run opened ran) unrecorded).2 exited
    exact absurd (requested.symm.trans unrequested) nofun
  · intro failure recorded
    obtain ⟨ending, concludes, rfl⟩ := (traced_of_run opened ran).recorded failure recorded
    refine ⟨?_, ?_⟩
    · intro fault refused
      simp only [Concludes, subscription, refused] at concludes
      rw [concludes]
    · intro subscribed
      simp only [Concludes, subscription, subscribed] at concludes
      obtain ⟨last, ends, rfl⟩ := concludes
      refine ⟨last, ends, ?_, ?_⟩
      · intro quiet
        rw [closedEnding_of_quiet quiet]
      · intro fault closing loud
        rw [closing, closedEnding_of_loud loud]

/-- An engine whose stream breaks behind a message, and whose stream cannot be closed well. -/
def brokenClient : Client :=
  { items := [.payload cacheStarted, .failure resetFault]
    streamCloseFault := some (.ofMessage .engine "gone") }

/-- An engine whose stream comes to its end, and is closed in a stray fault. -/
def strayClient : Client := { items := [.finish], streamCloseFault := some strayFault }

set_option maxRecDepth 4000 in
/-- The failure tells that the connection was reset, and nothing of the fault of closing. -/
theorem failure_tells_ending_of_example :
    ∃ watch state failure, (openWith exampleOptions brokenClient).report.outcome = .ok watch ∧
      run? watch.setup watch.state (List.replicate 18 .listen) = some state ∧
      state.listener = .exited ∧ state.stops = [] ∧ state.failure = some failure ∧
      failure = .listening (.text "docker event stream failed: reset")
        (some (.collecting "docker event stream failed" resetFault)) := by
  obtain ⟨watch, state, opened, ran, exited, unasked, ends⟩ :
      ∃ watch state, (openWith exampleOptions brokenClient).report.outcome = .ok watch ∧
        run? watch.setup watch.state (List.replicate 18 .listen) = some state ∧
        state.listener = .exited ∧ state.stops = [] ∧
        scriptEnding watch.setup.filter
            (brokenClient.items ++ delivered (List.replicate 18 .listen))
          = some (.failed (.collecting "docker event stream failed" resetFault)) :=
    ⟨_, _, rfl, rfl, rfl, rfl, rfl⟩
  obtain ⟨fails, tells⟩ := failure_tells_ending_unless_closing_fails opened ran
  obtain ⟨failure, recorded⟩ := Option.isSome_iff_exists.mp (fails exited (.inl unasked))
  obtain ⟨ending, ended, told, _⟩ := (tells failure recorded).2 rfl
  cases ends.symm.trans ended
  refine ⟨watch, state, failure, opened, ran, exited, unasked, recorded, told ?_⟩
  rintro fault ⟨⟩
  rfl

set_option maxRecDepth 4000 in
/-- It is not so that the failure tells how the reading ended, however the stream is closed: here the
    feed has come to its end, nobody has asked for that, and the failure tells the fault of closing. -/
theorem closing_fault_hides_end_of_feed :
    ∃ watch state failure, (openWith exampleOptions strayClient).report.outcome = .ok watch ∧
      run? watch.setup watch.state (List.replicate 12 .listen) = some state ∧
      state.stops = [] ∧ state.stopRequested = false ∧
      scriptEnding watch.setup.filter strayClient.items = some .finished ∧
      state.failure = some failure ∧ failure = .listening (.text "boom") (some strayFault) ∧
      failure ≠ failureOf .finished :=
  ⟨_, _, _, rfl, rfl, rfl, rfl, rfl, rfl, rfl, fun same => nomatch congrArg Fault.cause same⟩

end Opened

end ContainerWatch.Watcher
