import ContainerWatch.Proofs.Watcher.Terminal

/-!
# No notice is lost

A notice is on its way from the feed to a reader in one of four places: in a payload that was
delivered, in the hands of the listener, on the channel, or with a reader.  Wherever a run has come
to, the readers and the channel together have the notices of the snapshot, and after them those of
the payloads that were delivered, in their order and without a gap.
-/

namespace ContainerWatch.Watcher

open Engine Sighting

/-! ## The channel -/

section Queue

variable {setup : Setup} {first last state next : State} {move : Move} {moves : List Move}

/-- What a run hands out and what it leaves on the channel is what was there and what was put
    there. -/
theorem channel_of_run (ran : run? setup first moves = some last) :
    history handedBy setup first moves ++ last.channel
      = first.channel ++ history putBy setup first moves := by
  refine run?_induction (motive := fun moves state =>
    history handedBy setup first moves ++ state.channel
      = first.channel ++ history putBy setup first moves) ?_ ?_ ran
  · simp [history]
  · intro before state move next ran balanced stepped
    rw [history_snoc _ ran stepped, history_snoc _ ran stepped]
    calc history handedBy setup first before ++ handedBy state move ++ next.channel
        = history handedBy setup first before ++ (handedBy state move ++ next.channel) := by
          rw [List.append_assoc]
      _ = history handedBy setup first before ++ state.channel ++ putBy state move := by
          rw [channel_of_step? stepped, List.append_assoc]
      _ = first.channel ++ (history putBy setup first before ++ putBy state move) := by
          rw [balanced, List.append_assoc]

theorem taken_of_run (ran : run? setup first moves = some last) :
    last.taken = first.taken ++ history handedBy setup first moves := by
  refine run?_induction (motive := fun moves state =>
    state.taken = first.taken ++ history handedBy setup first moves) ?_ ?_ ran
  · simp [history]
  · intro before state move next ran taken stepped
    rw [history_snoc _ ran stepped, taken_of_step? stepped, taken, List.append_assoc]

/-- What was taken and what is on the channel grow by what is put on the channel, and by nothing
    else. -/
theorem balanced_of_run (ran : run? setup first moves = some last) :
    last.taken ++ last.channel
      = first.taken ++ first.channel ++ history putBy setup first moves := by
  rw [taken_of_run ran, List.append_assoc, channel_of_run ran, List.append_assoc]

theorem capacity_of_step? (stepped : step? setup state move = some next) :
    next.capacity = state.capacity := by
  by_cases own : move = .listen
  · subst own
    cases stepped
    simp
  · exact (beside_of_step? stepped own).capacity

theorem channel_length_of_step? (fits : state.channel.length ≤ state.capacity)
    (stepped : step? setup state move = some next) : next.channel.length ≤ next.capacity := by
  rw [capacity_of_step? stepped]
  have lengths := congrArg List.length (channel_of_step? stepped)
  simp only [List.length_append] at lengths
  have room : state.channel.length + (putBy state move).length ≤ state.capacity := by
    cases move with
    | listen =>
        simp only [putBy]
        split
        · by_cases room : state.hasRoom = true
          · have free : state.channel.length < state.capacity := by
              simpa [State.hasRoom] using room
            simp only [room, if_true, List.length_singleton]
            omega
          · simpa [room] using fits
        · simpa using fits
    | _ => simpa [putBy] using fits
  omega

end Queue

/-! ## The payloads -/

/-- The payload that a move reads off the stream. -/
def receivedBy (state : State) : Move → List Value
  | .listen =>
      match state.listener, state.feed.stream.read.1 with
      | .reading, .payload payload => [payload]
      | _, _ => []
  | _ => []

theorem receivedBy_of_ne {state : State} {move : Move} (other : move ≠ .listen) :
    receivedBy state move = [] := by
  cases move <;> first | rfl | exact absurd rfl other

/-- Whether the listener reads no more. -/
def Listener.isOver : Listener → Bool
  | starting | subscribing | subscribed | armed | reading => false
  | received _ | accepted _ | publishing _ | putting _ => false
  | _ => true

/-- What a listener that reads no more has put on the channel: all that the payloads tell, or, if it
    was to stop, at least the beginning. -/
def Final (filter : NameFilter) (payloads : List Value) (notices : List Notice)
    (stopRequested : Bool) : Prop :=
  notices <+: noticesOfFeed filter payloads ∧
    (stopRequested = false → notices = noticesOfFeed filter payloads)

/-- What the listener has put on the channel when it comes to a phase, compared with the payloads
    that were delivered.  It holds the last payload back as long as it has that message or that
    notice in its hands. -/
def Accounted (filter : NameFilter) (payloads : List Value) (notices : List Notice)
    (stopRequested : Bool) : Listener → Prop
  | .starting | .subscribing | .subscribed | .armed => payloads = [] ∧ notices = []
  | .reading => AllTold filter payloads ∧ notices = noticesOfFeed filter payloads
  | .received message | .accepted message =>
      ∃ before payload, payloads = before ++ [payload] ∧ Message.decode payload = .ok message ∧
        AllTold filter before ∧ notices = noticesOfFeed filter before
  | .publishing notice | .putting notice =>
      AllTold filter payloads ∧ notices ++ [notice] = noticesOfFeed filter payloads
  | _ => Final filter payloads notices stopRequested

variable {setup : Setup} {state next : State} {move : Move} {payloads : List Value}
  {notices : List Notice} {filter : NameFilter} {stopRequested : Bool}

/-- All that the payloads tell is on the channel. -/
theorem final_of_eq (told : notices = noticesOfFeed filter payloads) :
    Final filter payloads notices stopRequested :=
  ⟨told ▸ List.prefix_rfl, fun _ => told⟩

/-- A listener that is to stop may leave notices out at the end. -/
theorem final_of_prefix (begun : notices <+: noticesOfFeed filter payloads) :
    Final filter payloads notices true := ⟨begun, nofun⟩

/-- A stop that is requested later leaves what was put on the channel accounted for. -/
theorem Accounted.mono {phase : Listener} {earlier : Bool}
    (accounted : Accounted filter payloads notices earlier phase)
    (stays : earlier = true → stopRequested = true) :
    Accounted filter payloads notices stopRequested phase := by
  have kept : Final filter payloads notices earlier →
      Final filter payloads notices stopRequested := by
    rintro ⟨begun, complete⟩
    refine ⟨begun, fun unrequested => complete ?_⟩
    cases earlier with
    | false => rfl
    | true => simp [stays rfl] at unrequested
  cases phase <;> first | exact accounted | exact kept accounted

/-- A listener that reads no more puts nothing on the channel and reads no payload, and goes on
    without. -/
theorem listen_of_isOver (setup : Setup) (past : state.listener.isOver = true) :
    putBy state .listen = [] ∧ receivedBy state .listen = [] ∧
      (nextPhase setup state).isOver = true := by
  cases phase : state.listener with
  | broken _ | closing _ | marking _ | closingStream _ | finishing _ | recording _ _ | reporting _
  | leaving | exited =>
      refine ⟨by simp [putBy, phase], by simp [receivedBy, phase], ?_⟩
      simp only [nextPhase, phase]
      (repeat' split) <;> rfl
  | _ => simp [phase, Listener.isOver] at past

/-- A listener that reads no more is accounted for by what it has put on the channel. -/
theorem accounted_iff_of_isOver {phase : Listener} (past : phase.isOver = true) :
    Accounted filter payloads notices stopRequested phase ↔
      Final filter payloads notices stopRequested := by
  cases phase <;> first | rfl | exact Bool.noConfusion past

/-- A payload that is read is in the hands of the listener, unless it is no message. -/
theorem accounted_read (reading : state.listener = .reading) (all : AllTold filter payloads)
    (told : notices = noticesOfFeed filter payloads) :
    Accounted filter (payloads ++ receivedBy state .listen) notices stopRequested
      (nextPhase setup state) := by
  simp only [receivedBy, nextPhase, reading]
  cases state.feed.stream.read.1 with
  | payload payload =>
      simp only [Feed.ofReading, Feed.decode]
      cases decoded : Message.decode payload with
      | ok message => exact ⟨payloads, payload, rfl, decoded, all, told⟩
      | error error =>
          have ends : noticeOfPayload filter payload = .error error.fault := by
            simp [noticeOfPayload, decoded]
          apply final_of_eq
          rw [noticesOfFeed_snoc_of_error all ends, told]
  | failure fault | finish =>
      rw [List.append_nil]
      exact final_of_eq told
  | pending =>
      rw [List.append_nil]
      exact ⟨all, told⟩

/-- A message that is told leaves its notice in the hands of the listener, if there is one. -/
theorem accounted_interpret {message : Message} {payload : Value} {before : List Value}
    (accepted : state.listener = .accepted message)
    (decoded : Message.decode payload = .ok message) (all : AllTold setup.filter before)
    (told : notices = noticesOfFeed setup.filter before) :
    Accounted setup.filter (before ++ [payload]) notices stopRequested
      (nextPhase setup state) := by
  have translated : noticeOfPayload setup.filter payload
      = (noticeOfMessage setup.filter message).outcome := by simp [noticeOfPayload, decoded]
  simp only [nextPhase, accepted]
  cases tells : (noticeOfMessage setup.filter message).outcome with
  | error fault =>
      apply final_of_eq
      rw [noticesOfFeed_snoc_of_error all (translated.trans tells), told]
  | ok notice =>
      have complete := noticesOfFeed_snoc all (translated.trans tells)
      rw [← told] at complete
      cases notice with
      | none =>
          refine ⟨allTold_snoc all (translated.trans tells), ?_⟩
          simpa using complete.symm
      | some notice => exact ⟨allTold_snoc all (translated.trans tells), complete.symm⟩

/-- A step of the listener keeps every payload accounted for. -/
theorem accounted_listen
    (accounted : Accounted setup.filter payloads notices state.stopRequested state.listener) :
    Accounted setup.filter (payloads ++ receivedBy state .listen) (notices ++ putBy state .listen)
      state.stopRequested (nextPhase setup state) := by
  cases phase : state.listener with
  | starting | subscribed =>
      rw [phase] at accounted
      simpa [Accounted, nextPhase, putBy, receivedBy, phase] using accounted
  | subscribing =>
      rw [phase] at accounted
      obtain ⟨rfl, rfl⟩ := accounted
      simp only [nextPhase, putBy, receivedBy, phase, List.append_nil]
      cases setup.subscription with
      | ok _ => exact ⟨rfl, rfl⟩
      | error fault => exact final_of_eq rfl
  | armed =>
      rw [phase] at accounted
      obtain ⟨rfl, rfl⟩ := accounted
      simp only [nextPhase, putBy, receivedBy, phase, List.append_nil]
      cases state.stopRequested with
      | true => exact final_of_eq rfl
      | false => exact ⟨allTold_nil, rfl⟩
  | reading =>
      rw [phase] at accounted
      obtain ⟨all, told⟩ := accounted
      have nothing : putBy state .listen = [] := by simp [putBy, phase]
      rw [nothing, List.append_nil]
      exact accounted_read phase all told
  | received message =>
      rw [phase] at accounted
      obtain ⟨before, payload, rfl, decoded, all, told⟩ := accounted
      simp only [nextPhase, putBy, receivedBy, phase, List.append_nil]
      cases state.stopRequested with
      | true =>
          apply final_of_prefix
          rw [told, noticesOfFeed_append all]
          exact List.prefix_append _ _
      | false => exact ⟨before, payload, rfl, decoded, all, told⟩
  | accepted message =>
      rw [phase] at accounted
      obtain ⟨before, payload, rfl, decoded, all, told⟩ := accounted
      have nothing : putBy state .listen = [] ∧ receivedBy state .listen = [] := by
        simp [putBy, receivedBy, phase]
      rw [nothing.1, nothing.2, List.append_nil, List.append_nil]
      exact accounted_interpret phase decoded all told
  | publishing notice =>
      rw [phase] at accounted
      obtain ⟨all, told⟩ := accounted
      simp only [nextPhase, putBy, receivedBy, phase, List.append_nil]
      cases state.stopRequested with
      | true =>
          apply final_of_prefix
          rw [← told]
          exact List.prefix_append _ _
      | false => exact ⟨all, told⟩
  | putting notice =>
      rw [phase] at accounted
      obtain ⟨all, told⟩ := accounted
      simp only [nextPhase, putBy, receivedBy, phase, List.append_nil]
      cases state.hasRoom with
      | true => exact ⟨all, told⟩
      | false =>
          simp only [Bool.false_eq_true, if_false, List.append_nil]
          exact ⟨all, told⟩
  | _ =>
      have past : state.listener.isOver = true := by rw [phase]; rfl
      obtain ⟨noPut, noPayload, stays⟩ := listen_of_isOver setup past
      rw [accounted_iff_of_isOver past] at accounted
      rw [accounted_iff_of_isOver stays, noPut, noPayload, List.append_nil, List.append_nil]
      exact accounted

/-- Every move keeps the payloads that were delivered accounted for. -/
theorem accounted_of_step?
    (accounted : Accounted setup.filter payloads notices state.stopRequested state.listener)
    (stepped : step? setup state move = some next) :
    Accounted setup.filter (payloads ++ receivedBy state move) (notices ++ putBy state move)
      next.stopRequested next.listener := by
  by_cases own : move = .listen
  · subst own
    cases stepped
    rw [listen_listener, listen_stopRequested]
    exact accounted_listen accounted
  · have beside := beside_of_step? stepped own
    rw [putBy_of_ne own, receivedBy_of_ne own, List.append_nil, List.append_nil, beside.listener]
    exact accounted.mono beside.stopRequested

/-! ## Whole runs -/

section Opened

variable {options : Options} {client : Client} {watch : Watch} {moves : List Move}

/-- Wherever a run has come to, the payloads that were delivered in it are accounted for. -/
theorem accounted_of_run (opened : (openWith options client).report.outcome = .ok watch)
    (ran : run? watch.setup watch.state moves = some state) :
    Accounted watch.setup.filter (history receivedBy watch.setup watch.state moves)
      (history putBy watch.setup watch.state moves) state.stopRequested state.listener := by
  obtain ⟨_, snapshot, _, _, _, _, _, start⟩ := openWith_eq_ok opened
  refine run?_induction (motive := fun moves state =>
    Accounted watch.setup.filter (history receivedBy watch.setup watch.state moves)
      (history putBy watch.setup watch.state moves) state.stopRequested state.listener) ?_ ?_ ran
  · rw [start]
    exact ⟨rfl, rfl⟩
  · intro before state move next ran accounted stepped
    rw [history_snoc _ ran stepped, history_snoc _ ran stepped]
    exact accounted_of_step? accounted stepped

theorem Accounted.isPrefix {phase : Listener}
    (accounted : Accounted filter payloads notices stopRequested phase) :
    notices <+: noticesOfFeed filter payloads := by
  cases phase with
  | starting | subscribing | subscribed | armed =>
      rw [accounted.2]
      exact List.nil_prefix
  | reading => exact accounted.2 ▸ List.prefix_rfl
  | received message | accepted message =>
      obtain ⟨before, payload, rfl, _, all, rfl⟩ := accounted
      rw [noticesOfFeed_append all]
      exact List.prefix_append _ _
  | publishing notice | putting notice => exact accounted.2 ▸ List.prefix_append _ _
  | _ => exact accounted.1

/-- A listener that waits for the feed, or that reads no more without a stop, has put on the channel
    all that the payloads tell. -/
theorem Accounted.eq_noticesOfFeed {phase : Listener}
    (accounted : Accounted filter payloads notices stopRequested phase)
    (rests : phase = .reading ∨ phase.isOver = true ∧ stopRequested = false) :
    notices = noticesOfFeed filter payloads := by
  rcases rests with rfl | ⟨past, unrequested⟩
  · exact accounted.2
  · exact ((accounted_iff_of_isOver past).mp accounted).2 unrequested

/-- A stop call removes nothing from the channel and takes nothing. -/
theorem channel_of_stop {setup : Setup} {state next : State} {move : Move}
    (stopping : move = .callStop ∨ ∃ call, move = .stop call)
    (stepped : step? setup state move = some next) :
    next.channel = state.channel ∧ next.taken = state.taken := by
  have own : move ≠ .listen := by rcases stopping with rfl | ⟨call, rfl⟩ <;> nofun
  have nothing : handedBy state move = [] := by rcases stopping with rfl | ⟨call, rfl⟩ <;> rfl
  have beside := beside_of_step? stepped own
  have taken := beside.taken
  have channel := beside.channel
  rw [nothing] at taken channel
  exact ⟨channel, by rw [taken, List.append_nil]⟩

/-- No notice is lost, doubled or out of turn, wherever a run has come to.  What the readers have
    taken and what is still on the channel are the notices of the containers that were listed, and
    then the beginning of what the payloads tell that the feed delivered; all of it, if the listener
    waits for the feed or has come to its end without a stop.  The channel never holds more than it
    was to have room for, or than the snapshot, and a stop call removes nothing from it. -/
theorem taken_append_channel_of_run
    (opened : (openWith options client).report.outcome = .ok watch)
    (ran : run? watch.setup watch.state moves = some state) :
    ∃ containers snapshot feed,
      NameFilter.ofSettings options.settings = .ok watch.setup.filter ∧
      client.list = .ok containers ∧
      ListingTells watch.setup.filter containers snapshot ∧
      (∀ notice ∈ snapshot, notice.status = .bool true) ∧
      FeedTells watch.setup.filter (history receivedBy watch.setup watch.state moves) feed ∧
      state.taken = history handedBy watch.setup watch.state moves ∧
      state.taken ++ state.channel = snapshot ++ history putBy watch.setup watch.state moves ∧
      history putBy watch.setup watch.state moves <+: feed ∧
      (state.listener = .reading ∨
          state.listener.isOver = true ∧ (state.stops = [] ∨ state.stopRequested = false) →
        state.taken ++ state.channel = snapshot ++ feed) ∧
      state.channel.length ≤ max options.bufferSize.toNat snapshot.length ∧
      ∀ move next, (move = .callStop ∨ ∃ call, move = .stop call) →
        step? watch.setup state move = some next →
        next.channel = state.channel ∧ next.taken = state.taken := by
  have accounted := accounted_of_run opened ran
  have uncalled := unrequested_of_run opened ran
  obtain ⟨containers, snapshot, filtered, listed, tells, _, _, start⟩ := openWith_eq_ok opened
  have taken : state.taken = history handedBy watch.setup watch.state moves := by
    rw [taken_of_run ran, start]
    rfl
  have balanced : state.taken ++ state.channel
      = snapshot ++ history putBy watch.setup watch.state moves := by
    rw [balanced_of_run ran, start]
    rfl
  have fits : state.channel.length ≤ state.capacity ∧
      state.capacity = max options.bufferSize.toNat snapshot.length := by
    refine run?_invariant (motive := fun s => s.channel.length ≤ s.capacity ∧
      s.capacity = max options.bufferSize.toNat snapshot.length) ?_ ?_ ran
    · rintro state move next ⟨fits, fixed⟩ stepped
      exact ⟨channel_length_of_step? fits stepped, (capacity_of_step? stepped).trans fixed⟩
    · rw [start]
      exact ⟨length_le_capacityFor options.bufferSize snapshot, rfl⟩
  refine ⟨containers, snapshot, _, filtered, listed, tells, status_of_listingTells tells,
    feedTells_noticesOfFeed _ _, taken, balanced, accounted.isPrefix, ?_, ?_, ?_⟩
  · intro rests
    rw [balanced, ← accounted.eq_noticesOfFeed]
    exact rests.imp_right fun ⟨past, unasked⟩ => ⟨past, unasked.elim uncalled id⟩
  · rw [← fits.2]
    exact fits.1
  · intro move next stopping stepped
    exact channel_of_stop stopping stepped

set_option maxRecDepth 4000 in
/-- The running container is taken, and the one that was started later waits on the channel. -/
theorem taken_append_channel_of_example :
    ∃ watch state, (openWith exampleOptions exampleClient).report.outcome = .ok watch ∧
      run? watch.setup watch.state (.take :: List.replicate 9 .listen) = some state ∧
      state.taken.length = 1 ∧ state.channel.length = 1 ∧
      ∃ containers snapshot feed, exampleClient.list = .ok containers ∧
        ListingTells watch.setup.filter containers snapshot ∧
        FeedTells watch.setup.filter [cacheStarted] feed ∧
        state.taken ++ state.channel = snapshot ++ feed := by
  obtain ⟨watch, state, opened, ran, reading, taken, waiting, received⟩ :
      ∃ watch state, (openWith exampleOptions exampleClient).report.outcome = .ok watch ∧
        run? watch.setup watch.state (.take :: List.replicate 9 .listen) = some state ∧
        state.listener = .reading ∧ state.taken.length = 1 ∧ state.channel.length = 1 ∧
        history receivedBy watch.setup watch.state (.take :: List.replicate 9 .listen)
          = [cacheStarted] :=
    ⟨_, _, rfl, rfl, rfl, rfl, rfl, rfl⟩
  obtain ⟨containers, snapshot, feed, _, listed, tells, _, delivered, _, _, _, complete, _⟩ :=
    taken_append_channel_of_run opened ran
  rw [received] at delivered
  exact ⟨watch, state, opened, ran, taken, waiting, containers, snapshot, feed, listed, tells,
    delivered, complete (.inl reading)⟩

end Opened

end ContainerWatch.Watcher
