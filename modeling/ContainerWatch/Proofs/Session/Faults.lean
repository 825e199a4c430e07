import ContainerWatch.Proofs.Session.Exits

/-!
# Where faults of the engine come to an end

Faults of the engine and of the operating system are converted where the client meets them, so that
nobody who uses a client has to deal with them.  There is one gap: a fault of the operating system in
which connecting ends is not converted, and the session ends in it.
-/

namespace ContainerWatch

open Engine Journal

/-! ## Outcomes without such faults -/

/-- An outcome that is no fault of the engine or of the operating system. -/
def Internal {α : Type} (outcome : Except Fault α) : Prop :=
  ∀ fault, outcome = .error fault → fault.kind.isTransport = false

namespace Internal

variable {α β : Type} {fault : Fault}

theorem ok (value : α) : Internal (.ok value) := nofun

theorem error (other : fault.kind.isTransport = false) :
    Internal (.error fault : Except Fault α) := by
  rintro raised ⟨⟩
  exact other

theorem bind {outcome : Except Fault α} {next : α → Except Fault β} (first : Internal outcome)
    (rest : ∀ value, Internal (next value)) : Internal (outcome >>= next) := by
  cases outcome with
  | error fault =>
      rintro raised ⟨⟩
      exact first fault rfl
  | ok value => exact rest value

theorem map {outcome : Except Fault α} (change : α → β) (first : Internal outcome) :
    Internal (outcome.map change) := by
  cases outcome with
  | error fault =>
      rintro raised ⟨⟩
      exact first fault rfl
  | ok value => exact ok (change value)

theorem mapM {change : α → Except Fault β} (each : ∀ value, Internal (change value))
    (values : List α) : Internal (values.mapM change) := by
  induction values with
  | nil => exact ok []
  | cons value values ih =>
      rw [List.mapM_cons]
      exact (each value).bind fun _ => ih.bind fun _ => nofun

theorem report_bind {report : Report α} {next : α → Report β} (first : Internal report.outcome)
    (rest : ∀ value, Internal (next value).outcome) : Internal (report >>= next).outcome := by
  change Internal (Report.bind report next).outcome
  unfold Report.bind
  cases ended : report.outcome with
  | error fault => exact error (first fault ended)
  | ok value => exact rest value

end Internal

/-! ## Settings -/

theorem internal_asKey (value : Value) : Internal (Fault.asKey value) := by
  unfold Fault.asKey
  split
  · exact .error rfl
  · exact .ok _

theorem Pattern.Cause.kind_isTransport (cause : Pattern.Cause) : cause.kind.isTransport = false := by
  cases cause <;> rfl

theorem NameFilter.internal_ofSettings (settings : FilterSettings) :
    Internal (NameFilter.ofSettings settings) := by
  have names : ∀ values, Internal (NameFilter.namesOf values) := by
    intro values
    exact (Internal.mapM internal_asKey values).bind fun _ => nofun
  have text : ∀ rule source, Internal (NameFilter.compileText rule source) := by
    intro rule source
    unfold NameFilter.compileText
    split
    · exact .ok _
    · simp only
      split
      · exact .error rfl
      · exact .error (Pattern.Cause.kind_isTransport _)
  have pattern : ∀ rule setting, Internal (NameFilter.compileSetting rule setting) := by
    intro rule setting
    unfold NameFilter.compileSetting
    split
    · split
      · exact (text _ _).map some
      · exact (internal_asKey _).bind fun _ => .error rfl
    · exact .ok _
  exact (names _).bind fun _ => (names _).bind fun _ => (pattern _ _).bind fun _ =>
    (pattern _ _).bind fun _ => nofun

theorem Journal.Logbook.internal_setUp (format level hostname : String) (logbook : Logbook) :
    Internal (logbook.setUp format level hostname) := by
  refine Internal.bind ?_ fun _ => nofun
  unfold Logbook.thresholdNamed
  split
  · exact .ok _
  · exact .error rfl
  · exact .error rfl

/-! ## The client -/

namespace Engine

variable {client : Client} {fault : Fault}

/-- A fault that stands for another one: it is a fault of collecting, the other is its cause, and its
    text ends with the text of the other. -/
def StandsFor (raised fault : Fault) : Prop :=
  raised.kind = .collecting ∧ raised.cause = some fault ∧
    ∃ what, raised.text = what ++ fault.text

theorem standsFor_collecting (what : String) (fault : Fault) :
    StandsFor (.collecting what fault) fault := ⟨rfl, rfl, what ++ ": ", rfl⟩

/-- A converted fault is no fault of the engine. -/
theorem converted_isTransport (what : String) (fault : Fault) :
    (converted what fault).kind.isTransport = false := by
  unfold converted
  split
  · rfl
  · next other => exact Bool.eq_false_iff.mpr other

theorem guarded_of_isTransport {α : Type} {what : String} {value : α}
    (transport : fault.kind.isTransport = true) :
    guarded what (some fault) value = .error (.collecting what fault) := by
  simp [guarded, converted, transport]

theorem Client.connect_converts (met : client.connectFault = some fault)
    (engine : fault.kind.isEngine = true) :
    ∃ raised, client.connect = .error raised ∧ StandsFor raised fault := by
  refine ⟨.collecting "can't connect to docker" fault, ?_, standsFor_collecting _ fault⟩
  simp [Client.connect, met, engine]

theorem Client.connect_passes_on (met : client.connectFault = some fault)
    (other : fault.kind.isEngine = false) : client.connect = .error fault := by
  simp [Client.connect, met, other]

theorem Client.list_converts (transport : fault.kind.isTransport = true)
    (met : client.listFault = some fault) :
    ∃ raised, client.list = .error raised ∧ StandsFor raised fault := by
  refine ⟨.collecting "can't list containers" fault, ?_, standsFor_collecting _ fault⟩
  rw [Client.list, met, guarded_of_isTransport transport]
  rfl

theorem Client.subscribe_converts (transport : fault.kind.isTransport = true)
    (met : client.subscribeFault = some fault) :
    ∃ raised, client.subscribe = .error raised ∧ StandsFor raised fault := by
  refine ⟨.collecting "can't subscribe to docker events" fault, ?_, standsFor_collecting _ fault⟩
  rw [Client.subscribe, met, guarded_of_isTransport transport]

theorem Client.close_returns (transport : fault.kind.isTransport = true)
    (met : client.closeFault = some fault) : client.close.outcome = .ok () := by
  simp [Client.close, met, transport]

theorem Feed.close_returns {feed : Feed} (transport : fault.kind.isTransport = true)
    (met : feed.stream.closeFault = some fault) : feed.close.1.outcome = .ok () := by
  unfold Feed.close
  split
  · rfl
  · simp [Feed.afterClosing, met, transport]

theorem internal_decodeAll (entries : List Value) : Internal (Client.decodeAll entries) := by
  induction entries with
  | nil => exact .ok []
  | cons entry entries ih =>
      unfold Client.decodeAll
      cases decoded : Container.decode entry with
      | error error =>
          refine .error ?_
          cases error <;> rfl
      | ok container => exact ih.map _

/-- Listing never ends in a fault of the engine or of the operating system. -/
theorem Client.internal_list (client : Client) : Internal client.list := by
  refine Internal.bind ?_ fun _ => internal_decodeAll _
  unfold guarded
  split
  · exact .error (converted_isTransport _ _)
  · exact .ok _

theorem Client.internal_close (client : Client) : Internal client.close.outcome := by
  unfold Client.close
  split
  · exact .ok ()
  · split
    · exact .ok ()
    · next other => exact .error (Bool.eq_false_iff.mpr other)

theorem Feed.internal_afterClosing (fault : Option Fault) :
    Internal (Feed.afterClosing fault).outcome := by
  unfold Feed.afterClosing
  split
  · exact .ok ()
  · split
    · exact .ok ()
    · next other => exact .error (Bool.eq_false_iff.mpr other)

/-- A fault of the engine or of the operating system in which connecting ends is one of the operating
    system, which is passed on as it is. -/
theorem Client.connect_eq_error (refused : client.connect = .error fault)
    (transport : fault.kind.isTransport = true) :
    client.connectFault = some fault ∧ fault.kind.isEngine = false := by
  unfold Client.connect at refused
  split at refused
  · cases refused
  · next met connecting =>
      split at refused
      · cases refused
        cases transport
      · next other =>
          cases refused
          exact ⟨connecting, Bool.eq_false_iff.mpr other⟩

end Engine

/-! ## The watcher -/

namespace Watcher

variable {setup : Setup} {state next : State} {move : Move} {moves : List Move} {client : Client}

theorem internal_prepare (options : Options) : Internal (prepare options).outcome := by
  refine Internal.report_bind (.ok ()) fun _ => ?_
  split
  · exact .error rfl
  · exact NameFilter.internal_ofSettings options.settings

/-- Opening a watcher ends in a fault of the engine or of the operating system only where the listing
    does not end in any. -/
theorem internal_openWith (options : Options) (failing : client.listFault.isSome = true) :
    Internal (openWith options client).report.outcome := by
  have prepared := internal_prepare options
  cases usable : (prepare options).outcome with
  | error fault =>
      rw [openWith_of_fault usable]
      exact .error (prepared fault usable)
  | ok filter =>
      obtain ⟨met, found⟩ := Option.isSome_iff_exists.mp failing
      have listed : client.list = .error (converted "can't list containers" met) := by
        simp only [Client.list, guarded, found]
        rfl
      have snapshotted : (snapshot filter client).report.outcome
          = .error (converted "can't list containers" met) := by
        rw [snapshot, Conduct.bind_report, Report.bind_of_error listed]
      have unfilled : (fill options client filter).report.outcome
          = .error (converted "can't list containers" met) := by
        rw [fill, Conduct.bind_report, Report.bind_of_error snapshotted]
      rw [openWith_report usable, unfilled]
      exact .error (converted_isTransport _ _)

/-- No stop call has ended in a fault of the engine or of the operating system. -/
def StopsInternally (state : State) : Prop :=
  ∀ call ∈ state.stops, ∀ fault, call = .raised fault → fault.kind.isTransport = false

/-- Every move keeps stop calls from ending in such a fault. -/
theorem stopsInternally_of_step? (sound : StopsInternally state)
    (stepped : step? setup state move = some next) : StopsInternally next := by
  cases move with
  | listen =>
      cases stepped
      rw [StopsInternally, listen_stops]
      exact sound
  | stop call =>
      obtain ⟨phase, found, rfl⟩ := Option.map_eq_some_iff.mp stepped
      rw [StopsInternally, stopStep_stops found]
      intro later member fault raised
      rcases List.mem_or_eq_of_mem_set member with kept | rfl
      · exact sound later kept fault raised
      · cases phase with
        | closingStream =>
            have closing := Feed.internal_afterClosing state.feed.stream.closeFault
            simp only [nextStop] at raised
            split at raised
            · cases raised
            · next met ended =>
                cases raised
                exact closing fault ended
        | raised met =>
            cases raised
            exact sound _ (List.mem_of_getElem? found) _ rfl
        | requested | closing =>
            simp only [nextStop] at raised
            split at raised <;> cases raised
        | _ => cases raised
  | _ =>
      rcases (aside_of_step? stepped (by simp) (by simp)).stops with same | more
      · rw [StopsInternally, same]
        exact sound
      · intro later member fault raised
        rw [more] at member
        rcases List.mem_append.mp member with kept | new
        · exact sound later kept fault raised
        · rw [List.mem_singleton.mp new] at raised
          cases raised

theorem stopsInternally_of_run {options : Options} {watch : Watch}
    (opened : (openWith options client).report.outcome = .ok watch)
    (ran : run? watch.setup watch.state moves = some state) : StopsInternally state := by
  refine invariant_of_opened opened ?_ (fun _ _ _ => stopsInternally_of_step?) ran
  intro snapshot capacity call member
  cases member

end Watcher

/-! ## The session -/

namespace Session

variable {configuration : Configuration} {hostname : String} {client : Client} {last : Session}
  {fault : Fault} {moves : List Move} {handed : List Notice} {watch : Watcher.Watch}

theorem unhandled_of_afterFault {handled : Bool} {what : String} {met : Fault}
    (exits : (afterFault handled what met).2 = .error fault) : met = fault := by
  unfold afterFault at exits
  cases handled with
  | true => cases exits
  | false => exact Except.error.inj exits

/-- A session that closes its client ends in a fault of the engine or of the operating system only if
    it was to end in it before. -/
theorem eq_error_of_closing {outcome : Outcome} (exits : closing client outcome = .error fault)
    (transport : fault.kind.isTransport = true) : outcome = .error fault := by
  unfold closing at exits
  split at exits
  · exact exits
  · next met closed =>
      cases exits
      have internal := client.internal_close fault closed
      simp [transport] at internal

/-- A session that has a watcher does not end in a fault of the engine or of the operating system. -/
theorem internal_of_exit {lost : List Notice} {farewell : List Entry}
    (reached : Reached configuration client watch)
    (exits : Exit watch.state.reader watch.state.stops lost farewell (.error fault)) :
    fault.kind.isTransport = false := by
  obtain ⟨opened, moves, outcome, same, ran⟩ := reached
  have sound := Watcher.stopsInternally_of_run outcome ran
  generalize reading : watch.state.reader = reader at exits
  generalize calls : watch.state.stops = stops at exits
  cases exits with
  | raised _ givenUp =>
      refine sound (.raised fault) ?_ fault rfl
      rw [calls]
      exact List.mem_singleton_self _

/-- A session that ends in a fault of the engine or of the operating system could not connect, or
    could not open a watcher. -/
theorem refused_of_course (course : Course last handed) (phase : last.phase = .done (.error fault))
    (transport : fault.kind.isTransport = true) :
    last.client.connect = .error fault ∨ last.client.connect = .ok () ∧
      (Watcher.openWith (options last.configuration) last.client).report.outcome
        = .error fault := by
  cases course with
  | unwatched absent nothing stands =>
      rw [phase] at stands
      generalize ended : (Except.error fault : Outcome) = outcome at stands
      cases stands with
      | unconnected refused written =>
          left
          rw [← unhandled_of_afterFault ended.symm]
          exact refused
      | done connected refused written =>
          right
          have left := eq_error_of_closing ended.symm transport
          rw [← unhandled_of_afterFault left]
          exact ⟨connected, refused⟩
  | watched found connected reached taken stands =>
      rw [phase] at stands
      generalize ended : (Except.error fault : Outcome) = outcome at stands
      cases stands with
      | done exits written =>
          have left := eq_error_of_closing ended.symm transport
          subst left
          have internal := internal_of_exit reached exits
          simp [transport] at internal

/-- A session that ends in a fault of the engine or of the operating system was not let connect by the
    operating system, or met the fault in opening a watcher although its listing was answered. -/
theorem origin_of_fault (configuration : Configuration) (hostname : String) (moves : List Move)
    (transport : fault.kind.isTransport = true)
    (finished : ((start configuration hostname client).run moves).outcome? = some (.error fault)) :
    client.connectFault = some fault ∧ fault.kind.isEngine = false ∨
      client.connect = .ok () ∧ client.listFault = none ∧
        (Watcher.openWith (options configuration) client).report.outcome = .error fault := by
  have phase := phase_of_outcome finished
  rcases course_of_start configuration hostname client moves with
    ⟨refusal, refused, same, ended, _⟩ | ⟨logbook, _, _, course⟩
  · rw [same, ended] at phase
    cases phase
    have internal := Logbook.internal_setUp _ _ _ _ fault refused
    simp [transport] at internal
  · obtain ⟨configured, connects⟩ := run_fixed (start configuration hostname client) moves
    have refused := refused_of_course course phase transport
    rw [configured, connects] at refused
    rcases refused with unconnected | ⟨connected, unopened⟩
    · exact .inl (Client.connect_eq_error unconnected transport)
    · refine .inr ⟨connected, ?_, unopened⟩
      rw [← Option.not_isSome_iff_eq_none]
      intro failing
      have internal := Watcher.internal_openWith (options configuration) failing fault unopened
      simp [transport] at internal

/-- Where a fault of the engine or of the operating system comes to an end.  In listing and
    subscribing it is converted into a fault of collecting that stands for it; in closing the client
    or the stream it is noted only.  In connecting a fault of the engine is converted, but one of the
    operating system is passed on as it is.  So a watcher is never opened with a listing that ends in
    such a fault, and a session ends in one only if connecting has passed it on, or if opening a
    watcher ends in it although nothing that was asked of the engine has failed, as where the clock
    has no instant for the time of a container. -/
theorem transport_faults_are_converted_but_in_connecting (client : Client)
    (transport : fault.kind.isTransport = true) :
    (client.connectFault = some fault →
      (fault.kind.isEngine = true → ∃ raised, client.connect = .error raised ∧
        StandsFor raised fault) ∧
      (fault.kind.isEngine = false → client.connect = .error fault)) ∧
    (client.listFault = some fault →
      ∃ raised, client.list = .error raised ∧ StandsFor raised fault) ∧
    (client.subscribeFault = some fault →
      ∃ raised, client.subscribe = .error raised ∧ StandsFor raised fault) ∧
    (client.closeFault = some fault → client.close.outcome = .ok ()) ∧
    (∀ feed : Feed, feed.stream.closeFault = some fault → feed.close.1.outcome = .ok ()) ∧
    client.list ≠ .error fault ∧
    ∀ configuration hostname moves,
      ((start configuration hostname client).run moves).outcome? = some (.error fault) →
      client.connectFault = some fault ∧ fault.kind.isEngine = false ∨
      client.connect = .ok () ∧ client.listFault = none ∧
        (Watcher.openWith (options configuration) client).report.outcome = .error fault := by
  refine ⟨?_, Client.list_converts transport, Client.subscribe_converts transport,
    Client.close_returns transport, ?_, ?_, ?_⟩
  · intro met
    exact ⟨Client.connect_converts met, Client.connect_passes_on met⟩
  · intro feed met
    exact Feed.close_returns transport met
  · intro listed
    have internal := client.internal_list fault listed
    simp [transport] at internal
  · intro configuration hostname moves finished
    exact origin_of_fault configuration hostname moves transport finished

/-- A client whose engine goes away while it is asked for its containers. -/
def failingClient : Client := { listFault := some (.ofMessage .engine "engine is gone") }

/-- The fault in which listing ends stands for that of the engine. -/
theorem listing_fault_is_converted_of_example :
    ∃ fault raised, fault.kind.isTransport = true ∧ failingClient.listFault = some fault ∧
      failingClient.list = .error raised ∧ StandsFor raised fault := by
  have transport : (Fault.ofMessage .engine "engine is gone").kind.isTransport = true := rfl
  obtain ⟨_, listing, _⟩ :=
    transport_faults_are_converted_but_in_connecting failingClient transport
  obtain ⟨raised, listed, stands⟩ := listing rfl
  exact ⟨_, raised, transport, rfl, listed, stands⟩

/-- A client that the operating system does not let connect. -/
def refusedClient : Client := { connectFault := some (.system (.int 111) (.text "refused")) }

/-- It is not so that every fault of the operating system is converted: here connecting ends in it,
    and so does the session. -/
theorem system_fault_escapes_from_connecting :
    ∃ fault, refusedClient.connectFault = some fault ∧ fault.kind.isTransport = true ∧
      refusedClient.connect = .error fault ∧
      (¬∃ raised, refusedClient.connect = .error raised ∧ StandsFor raised fault) ∧
      ((start {} "host" refusedClient).run [.advance]).outcome? = some (.error fault) := by
  refine ⟨.system (.int 111) (.text "refused"), rfl, rfl, rfl, ?_, rfl⟩
  rintro ⟨raised, refused, kind, _⟩
  cases refused
  cases kind

end Session

end ContainerWatch
