import ContainerWatch.Proofs.Sightings
import ContainerWatch.Watcher.Opening

/-!
# Opened watchers

What holds of a watcher that could be opened: its channel starts with the notices of the containers
that were listed, each of which was started, and has room for all of them.
-/

namespace ContainerWatch.Watcher

open Engine Journal Sighting

/-! ## What is done on the way -/

namespace Conduct

variable {α β : Type} {conduct : Conduct α} {next : α → Conduct β} {fault : Fault} {value : α}

@[simp] theorem bind_report : (conduct >>= next).report
    = conduct.report >>= fun value => (next value).report := rfl

@[simp] theorem pure_report : (pure value : Conduct α).report = pure value := rfl

@[simp] theorem pure_effects : (pure value : Conduct α).effects = [] := rfl

/-- Nothing more is done once a computation has ended in a fault. -/
theorem bind_effects_of_error (ended : conduct.report.outcome = .error fault) :
    (conduct >>= next).effects = conduct.effects := by
  change conduct.effects ++ _ = _
  simp only [ended, List.append_nil]

/-- Behind what is done by a computation that ended with a value is what is done next. -/
theorem bind_effects_of_ok (ended : conduct.report.outcome = .ok value) :
    (conduct >>= next).effects = conduct.effects ++ (next value).effects := by
  change conduct.effects ++ _ = _
  simp only [ended]

end Conduct

/-! ## The snapshot -/

theorem noticesOf_eq_ok_iff (filter : NameFilter) (containers : List Container)
    (notices : List Notice) :
    (noticesOf filter containers).outcome = .ok notices ↔ ListingTells filter containers notices := by
  unfold ListingTells
  induction containers generalizing notices with
  | nil => simp [noticesOf, eq_comm]
  | cons container containers ih =>
      simp only [noticesOf, Report.bind_outcome_eq_ok, noticeOfContainer_eq_ok_iff]
      constructor
      · rintro ⟨told, tells, ended⟩
        cases told with
        | none =>
            obtain ⟨tolds, all, rfl⟩ := (ih notices).mp ended
            exact ⟨none :: tolds, .cons tells all, rfl⟩
        | some notice =>
            simp only [Report.bind_outcome_eq_ok, Report.pure_outcome, Except.ok.injEq] at ended
            obtain ⟨_, _, others, listed, rfl⟩ := ended
            obtain ⟨tolds, all, rfl⟩ := (ih others).mp listed
            exact ⟨some notice :: tolds, .cons tells all, rfl⟩
      · rintro ⟨tolds, all, rfl⟩
        cases all with
        | @cons _ told _ tolds tells all =>
            refine ⟨told, tells, ?_⟩
            have listed := (ih tolds.reduceOption).mpr ⟨tolds, all, rfl⟩
            cases told with
            | none => exact listed
            | some notice => simpa using listed

theorem status_of_listingTells {filter : NameFilter} {containers : List Container}
    {notices : List Notice} (tells : ListingTells filter containers notices) :
    ∀ notice ∈ notices, notice.status = .bool true := by
  obtain ⟨tolds, all, rfl⟩ := tells
  induction all with
  | nil => simp
  | @cons container told _ _ first _ ih =>
      intro notice member
      cases told with
      | none => exact ih notice (by simpa using member)
      | some other =>
          rcases List.mem_cons.mp (by simpa using member) with rfl | member
          · obtain ⟨_, _, tells⟩ := first
            cases tells
            rfl
          · exact ih notice member

theorem prepare_eq_ok_iff (options : Options) (filter : NameFilter) :
    (prepare options).outcome = .ok filter ↔
      1 ≤ options.bufferSize ∧ NameFilter.ofSettings options.settings = .ok filter := by
  simp only [prepare, Report.bind_outcome_eq_ok, Report.note_outcome]
  by_cases small : options.bufferSize < 1
  · have reversed : ¬1 ≤ options.bufferSize := Int.not_le.mpr small
    simp [small, reversed]
  · simp [small, Int.not_lt.mp small]

theorem channelFor_outcome (size : Int) (snapshot : List Notice) :
    (channelFor size snapshot).outcome = .ok (capacityFor size snapshot) := by
  unfold channelFor
  by_cases raised : size < capacityFor size snapshot
  · simp [raised]
  · simp [raised]

theorem putAll_of_room {state : State} {notices : List Notice}
    (room : state.channel.length + notices.length ≤ state.capacity) :
    state.putAll notices = .ok { state with channel := state.channel ++ notices } := by
  induction notices generalizing state with
  | nil =>
      rw [List.append_nil]
      rfl
  | cons notice notices ih =>
      rw [List.length_cons] at room
      have free : state.hasRoom = true := by
        rw [State.hasRoom, decide_eq_true_eq]
        omega
      have put : state.putNow notice = .ok (state.put notice) := by rw [State.putNow, if_pos free]
      have rest : (state.put notice).channel.length + notices.length ≤ (state.put notice).capacity := by
        simp only [State.put, List.length_append, List.length_singleton]
        omega
      have filled := ih rest
      rw [State.putAll] at filled ⊢
      rw [List.foldlM_cons, put]
      simp only [State.put, List.append_assoc, List.singleton_append] at filled
      exact filled

theorem putAll_initial (stream : Stream) (size : Int) (snapshot : List Notice) :
    (State.initial stream [] (capacityFor size snapshot)).putAll snapshot
      = .ok (.initial stream snapshot (capacityFor size snapshot)) := by
  have room := length_le_capacityFor size snapshot
  exact putAll_of_room (by simpa [State.initial] using room)

theorem snapshot_eq_ok_iff (filter : NameFilter) (client : Client) (notices : List Notice) :
    (snapshot filter client).report.outcome = .ok notices ↔
      ∃ containers, client.list = .ok containers ∧ ListingTells filter containers notices := by
  simp [snapshot, Conduct.list, Conduct.reporting, noticesOf_eq_ok_iff]

/-- A watcher can always be made of a snapshot, all of which is on its channel. -/
theorem watchOf_eq (options : Options) (client : Client) (filter : NameFilter)
    (notices : List Notice) :
    watchOf options client filter notices
      = ⟨(channelFor options.bufferSize notices).entries
            ++ [.plain .debug .watcher "completed initial emit"],
          .ok ⟨⟨filter, client.subscribe, options.callback⟩,
            .initial client.stream notices (capacityFor options.bufferSize notices)⟩⟩ := by
  rw [watchOf, Report.bind_of_ok (channelFor_outcome options.bufferSize notices), putAll_initial]
  rfl

/-- Containers are listed once to fill a channel, however that ends. -/
theorem fill_effects (options : Options) (client : Client) (filter : NameFilter) :
    (fill options client filter).effects = [.list] := by
  have listed : (snapshot filter client).effects = [.list] := by
    rw [snapshot]
    cases listed : client.list with
    | error fault => rw [Conduct.bind_effects_of_error listed, Conduct.list]
    | ok containers => rw [Conduct.bind_effects_of_ok listed]; rfl
  rw [fill]
  cases told : (snapshot filter client).report.outcome with
  | error fault => rw [Conduct.bind_effects_of_error told, listed]
  | ok notices => rw [Conduct.bind_effects_of_ok told, listed]; rfl

/-! ## Opening -/

theorem openWith_of_fault {options : Options} {fault : Fault}
    (failed : (prepare options).outcome = .error fault) (client : Client) :
    openWith options client = ⟨[], ⟨(prepare options).entries, .error fault⟩⟩ := by
  change Conduct.bind _ _ = _
  simp only [Conduct.bind, Conduct.reporting, failed, Report.bind_of_error failed, List.append_nil]

section Usable

variable {options : Options} {client : Client} {filter : NameFilter} {watch : Watch} {fault : Fault}

/-- What is reported of the opening of a watcher whose settings can be used. -/
theorem openWith_report (prepared : (prepare options).outcome = .ok filter) (client : Client) :
    (openWith options client).report
      = ⟨(prepare options).entries ++ (fill options client filter).report.entries,
          (fill options client filter).report.outcome⟩ := by
  have begun : (openWith options client).report = prepare options >>= fun filter =>
      (fill options client filter).report >>= fun watch => pure () >>= fun _ => pure watch := rfl
  rw [begun, Report.bind_of_ok prepared]
  cases filled : (fill options client filter).report.outcome with
  | error fault => rw [Report.bind_of_error filled]
  | ok watch =>
      rw [Report.bind_of_ok filled, Report.bind_of_ok rfl]
      simp only [Report.pure_entries, Report.pure_outcome, List.append_nil]

/-- What is done after settings that can be used is what is done from the listing on. -/
theorem openWith_effects (prepared : (prepare options).outcome = .ok filter) (client : Client) :
    (openWith options client).effects
      = (fill options client filter >>= fun watch => do
          Conduct.start watch
          return watch).effects := by
  have begun : (Conduct.reporting (prepare options)).report.outcome = .ok filter := prepared
  rw [openWith, Conduct.bind_effects_of_ok begun]
  rfl

theorem effects_of_unopened (prepared : (prepare options).outcome = .ok filter)
    (failed : (openWith options client).report.outcome = .error fault) :
    (openWith options client).effects = [.list] := by
  rw [openWith_report prepared] at failed
  rw [openWith_effects prepared, Conduct.bind_effects_of_error failed, fill_effects]

/-- The listener is started after the listing, of the watcher that is handed out. -/
theorem effects_of_opened (opened : (openWith options client).report.outcome = .ok watch) :
    (openWith options client).effects = [.list, .start watch] := by
  cases prepared : (prepare options).outcome with
  | error fault =>
      rw [openWith_of_fault prepared] at opened
      cases opened
  | ok filter =>
      rw [openWith_report prepared] at opened
      rw [openWith_effects prepared, Conduct.bind_effects_of_ok opened, fill_effects]
      rfl

/-- Containers are listed once if the settings can be used, however the opening ends. -/
theorem listings_of_filter (prepared : (prepare options).outcome = .ok filter) (client : Client) :
    (openWith options client).listings = 1 := by
  cases ended : (openWith options client).report.outcome with
  | error fault => rw [Conduct.listings, Conduct.scene, effects_of_unopened prepared ended]; rfl
  | ok watch => rw [Conduct.listings, Conduct.scene, effects_of_opened ended]; rfl

/-- A watcher that could be opened: its settings made a filter, its containers could be listed and
    told, and what they tell is on its channel. -/
theorem openWith_eq_ok (opened : (openWith options client).report.outcome = .ok watch) :
    ∃ containers snapshot,
      NameFilter.ofSettings options.settings = .ok watch.setup.filter ∧
      client.list = .ok containers ∧
      ListingTells watch.setup.filter containers snapshot ∧
      watch.setup.subscription = client.subscribe ∧
      watch.setup.callback = options.callback ∧
      watch.state =
        .initial client.stream snapshot (capacityFor options.bufferSize snapshot) := by
  cases prepared : (prepare options).outcome with
  | error fault =>
      rw [openWith_of_fault prepared] at opened
      cases opened
  | ok filter =>
      have usable := (prepare_eq_ok_iff options filter).mp prepared
      rw [openWith_report prepared] at opened
      simp only [fill, Conduct.bind_report, Conduct.reporting, Report.bind_outcome_eq_ok,
        snapshot_eq_ok_iff, watchOf_eq, Except.ok.injEq] at opened
      obtain ⟨notices, ⟨containers, listed, tells⟩, rfl⟩ := opened
      exact ⟨containers, notices, usable.2, listed, tells, rfl, rfl, rfl⟩

end Usable

/-! ## Other streams -/

/-- The state with other items on its stream and another thing to meet once that is closed. -/
def State.feeding (state : State) (items : List StreamItem) (afterClose : AfterClose) : State :=
  { state with
    feed := { state.feed with
      stream := { state.feed.stream with items := items, afterClose := afterClose } } }

/-- The watcher with other items on its stream and another thing to meet once that is closed. -/
def Watch.feeding (watch : Watch) (items : List StreamItem) (afterClose : AfterClose) : Watch :=
  { watch with state := watch.state.feeding items afterClose }

theorem fill_feeding (options : Options) (client : Client) (filter : NameFilter)
    (items : List StreamItem) (afterClose : AfterClose) :
    (fill options { client with items := items, afterClose := afterClose } filter).report
      = ⟨(fill options client filter).report.entries,
          (fill options client filter).report.outcome.map (·.feeding items afterClose)⟩ := by
  have same : snapshot filter { client with items := items, afterClose := afterClose }
      = snapshot filter client := rfl
  rw [fill, fill, same, Conduct.bind_report, Conduct.bind_report]
  cases told : (snapshot filter client).report.outcome with
  | error fault =>
      rw [Report.bind_of_error told, Report.bind_of_error told]
      rfl
  | ok notices =>
      rw [Report.bind_of_ok told, Report.bind_of_ok told]
      simp only [Conduct.reporting, watchOf_eq]
      rfl

theorem openWith_feeding (options : Options) (client : Client) (items : List StreamItem)
    (afterClose : AfterClose) :
    (openWith options { client with items := items, afterClose := afterClose }).listings
      = (openWith options client).listings ∧
    (openWith options { client with items := items, afterClose := afterClose }).report
      = ⟨(openWith options client).report.entries,
          (openWith options client).report.outcome.map (·.feeding items afterClose)⟩ := by
  cases prepared : (prepare options).outcome with
  | error fault =>
      rw [openWith_of_fault prepared, openWith_of_fault prepared]
      exact ⟨rfl, rfl⟩
  | ok filter =>
      rw [listings_of_filter prepared, listings_of_filter prepared, openWith_report prepared,
        openWith_report prepared, fill_feeding]
      exact ⟨rfl, rfl⟩

/-! ## An example -/

/-- A running container, as it is listed. -/
def webContainer : Value :=
  .dict [(.text "Id", .text "w1"), (.text "Names", .list [.text "/web"])]

/-- A message that another container was started. -/
def cacheStarted : Value :=
  .dict [
    (.text "Type", .text "container"),
    (.text "status", .text "start"),
    (.text "Actor", .dict [
      (.text "ID", .text "c1"),
      (.text "Attributes", .dict [(.text "name", .text "cache")])])]

/-- An engine with a running container, and a stream with a message that comes to its end. -/
def exampleClient : Client :=
  { containers := [webContainer], items := [.payload cacheStarted, .finish] }

/-- Options that admit every name, with room for a single notice. -/
def exampleOptions : Options := ⟨{}, 1, .accepts⟩

end ContainerWatch.Watcher
