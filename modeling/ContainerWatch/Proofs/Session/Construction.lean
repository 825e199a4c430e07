import ContainerWatch.Proofs.NameFilter.Settings
import ContainerWatch.Proofs.Session.Course

/-!
# Opening is all or nothing

A watcher is opened in a fixed order: its settings are checked before anything is listed, and the
whole snapshot is on the channel before the listener is started.  If anything goes wrong on the way no
listener is started at all, so that nobody ever subscribes to the feed; and if nothing does, no notice
of the snapshot has found the channel full.
-/

namespace ContainerWatch

open Engine Journal

namespace Watcher

open NameFilter (DoesNotCompile Textual)

/-- Settings of a watcher that cannot be used: the channel would have no room, or a pattern cannot be
    compiled. -/
def Refused (options : Options) : Prop :=
  options.bufferSize < 1 ∨ DoesNotCompile options.settings.includesPattern ∨
    DoesNotCompile options.settings.excludesPattern

theorem openWith_of_refused {options : Options} (refused : Refused options) (client : Client) :
    (openWith options client).listings = 0 ∧
      ∃ fault, (openWith options client).report.outcome = .error fault := by
  cases prepared : (prepare options).outcome with
  | error fault =>
      rw [openWith_of_fault prepared]
      exact ⟨rfl, fault, rfl⟩
  | ok filter =>
      obtain ⟨room, made⟩ := (prepare_eq_ok_iff options filter).mp prepared
      rcases refused with small | flawed
      · exact absurd room (Int.not_le.mpr small)
      · exact absurd made (NameFilter.ofSettings_of_doesNotCompile flawed filter)

theorem listings_of_usable {options : Options} (textual : Textual options.settings)
    (usable : ¬ Refused options) (client : Client) : (openWith options client).listings = 1 := by
  simp only [Refused, not_or, Int.not_lt] at usable
  obtain ⟨room, included, excluded⟩ := usable
  obtain ⟨filter, made⟩ := NameFilter.exists_ofSettings textual included excluded
  exact listings_of_filter ((prepare_eq_ok_iff options filter).mpr ⟨room, made⟩) client

/-! ### Failed openings -/

/-- An opening leaves nothing behind that could go on: no listener was started and no subscription
    called for, and whatever moves are tried thereafter, there is nobody to make them. -/
structure LeavesNothing (opening : Opening) : Prop where
  effects : ∀ effect ∈ opening.effects, effect = .list
  never : ∀ moves, (opening.scene.run moves).watch = none ∧ (opening.scene.run moves).subscribed = 0

theorem Scene.run_of_none {scene : Scene} (absent : scene.watch = none) (moves : List Move) :
    scene.run moves = scene := by
  have still (move : Move) : scene.move move = scene := by
    rw [Scene.move, absent, Option.map_none, ← absent]
  induction moves with
  | nil => rfl
  | cons move moves ih =>
      rw [Scene.run, List.foldl_cons, still]
      exact ih

/-- Listings start no listener and call for no subscription. -/
theorem Scene.foldl_after_of_listings {effects : List Effect}
    (listings : ∀ effect ∈ effects, effect = .list) (scene : Scene) :
    (effects.foldl Scene.after scene).watch = scene.watch ∧
      (effects.foldl Scene.after scene).subscriptions = scene.subscriptions := by
  induction effects generalizing scene with
  | nil => exact ⟨rfl, rfl⟩
  | cons effect effects ih =>
      obtain ⟨rfl, rest⟩ := List.forall_mem_cons.mp listings
      exact ih rest (scene.after .list)

/-- A watcher that could not be opened has at most listed containers, and left nothing behind. -/
theorem leavesNothing_of_unopened {options : Options} {client : Client} {fault : Fault}
    (failed : (openWith options client).report.outcome = .error fault) :
    LeavesNothing (openWith options client) := by
  have listings : ∀ effect ∈ (openWith options client).effects, effect = .list := by
    cases prepared : (prepare options).outcome with
    | error fault =>
        rw [openWith_of_fault prepared]
        exact List.forall_mem_nil _
    | ok filter =>
        rw [effects_of_unopened prepared failed]
        exact List.forall_mem_singleton.mpr rfl
  refine ⟨listings, fun moves => ?_⟩
  obtain ⟨absent, unasked⟩ := Scene.foldl_after_of_listings listings {}
  rw [← Conduct.scene] at absent unasked
  rw [Scene.run_of_none absent]
  refine ⟨absent, ?_⟩
  rw [Scene.subscribed, unasked, absent]
  rfl

/-! ### Successful openings -/

/-- An opening starts the listener of the watcher that it hands out, as the last thing it does, and
    until the listener takes a step nobody calls for a subscription. -/
structure StartsLast (opening : Opening) (watch : Watch) : Prop where
  effects : opening.effects = [.list, .start watch]
  patient : ∀ moves, .listen ∉ moves → (opening.scene.run moves).subscribed = 0

/-- A move that is not the listener's leaves a listener that was started where it is, and it has not
    called for a subscription. -/
theorem idle_of_move {watch : Watch} {move : Move} (other : move ≠ .listen)
    (idle : watch.state.listener = .starting ∧ watch.state.subscriptions = 0) :
    (watch.move move).state.listener = .starting ∧ (watch.move move).state.subscriptions = 0 := by
  cases stepped : step? watch.setup watch.state move with
  | none => simpa only [Watch.move, step, stepped, Option.getD_none] using idle
  | some next =>
      have beside := beside_of_step? stepped other
      simp only [Watch.move, step, stepped, Option.getD_some]
      exact ⟨beside.listener.trans idle.1, beside.subscriptions.trans idle.2⟩

/-- As long as a listener that was started takes no step, nobody has called for a subscription. -/
theorem Scene.subscribed_of_run {scene : Scene} {watch : Watch} (started : scene.watch = some watch)
    (idle : watch.state.listener = .starting ∧ watch.state.subscriptions = 0)
    (unasked : scene.subscriptions = 0) {moves : List Move} (others : .listen ∉ moves) :
    (scene.run moves).subscribed = 0 := by
  induction moves generalizing scene watch with
  | nil =>
      change scene.subscribed = 0
      rw [Scene.subscribed, unasked, started, Option.map_some, Option.getD_some, idle.2]
  | cons move moves ih =>
      obtain ⟨other, others⟩ := List.ne_and_not_mem_of_not_mem_cons others
      have moved : (scene.move move).watch = some (watch.move move) := by
        rw [Scene.move, started, Option.map_some]
      exact ih moved (idle_of_move (Ne.symm other) idle) unasked others

/-- A channel that is being filled with a snapshot has room for each notice that is still to come. -/
theorem hasRoom_of_filling (stream : Stream) (size : Int) (before after : List Notice)
    (notice : Notice) :
    ∃ state, (State.initial stream [] (capacityFor size (before ++ notice :: after))).putAll before
        = .ok state ∧ state.hasRoom = true := by
  have room := length_le_capacityFor size (before ++ notice :: after)
  rw [List.length_append, List.length_cons] at room
  refine ⟨_, putAll_of_room ?_, ?_⟩
  · simp only [State.initial, List.length_nil]
    omega
  · have fewer : before.length < capacityFor size (before ++ notice :: after) := by omega
    exact decide_eq_true fewer

/-- What a watcher is opened with: its listener has not taken a step and nobody has subscribed, and
    what the listing tells was put on the channel, which has never been full. -/
structure Fresh (options : Options) (client : Client) (watch : Watch) : Prop where
  idle : watch.state.listener = .starting ∧ watch.state.subscriptions = 0
  snapshot : ∃ containers, client.list = .ok containers ∧
    Sighting.ListingTells watch.setup.filter containers watch.state.channel
  capacity : (watch.state.capacity : Int) = max options.bufferSize watch.state.channel.length
  filled : (State.initial client.stream [] watch.state.capacity).putAll watch.state.channel
    = .ok watch.state
  roomy : ∀ before notice after, watch.state.channel = before ++ notice :: after →
    ∃ state, (State.initial client.stream [] watch.state.capacity).putAll before = .ok state ∧
      state.hasRoom = true

theorem fresh_of_opened {options : Options} {client : Client} {watch : Watch}
    (opened : (openWith options client).report.outcome = .ok watch) :
    Fresh options client watch := by
  obtain ⟨containers, snapshot, -, listed, tells, -, -, state⟩ := openWith_eq_ok opened
  have positive : 1 ≤ options.bufferSize := by
    cases prepared : (prepare options).outcome with
    | error fault =>
        rw [openWith_of_fault prepared] at opened
        cases opened
    | ok filter => exact ((prepare_eq_ok_iff options filter).mp prepared).1
  have channel : watch.state.channel = snapshot := by rw [state]; rfl
  have capacity : watch.state.capacity = capacityFor options.bufferSize snapshot := by
    rw [state]
    rfl
  constructor
  · rw [state]
    exact ⟨rfl, rfl⟩
  · rw [channel]
    exact ⟨containers, listed, tells⟩
  · rw [capacity, channel, capacityFor]
    omega
  · rw [capacity, channel, putAll_initial, state]
  · intro before notice after parts
    rw [channel] at parts
    subst parts
    rw [capacity]
    exact hasRoom_of_filling ..

/-- A watcher that could be opened had its listener started last. -/
theorem startsLast_of_opened {options : Options} {client : Client} {watch : Watch}
    (opened : (openWith options client).report.outcome = .ok watch) :
    StartsLast (openWith options client) watch := by
  refine ⟨effects_of_opened opened, fun moves others => ?_⟩
  rw [Conduct.scene, effects_of_opened opened]
  exact Scene.subscribed_of_run rfl (fresh_of_opened opened).idle rfl others

end Watcher

/-! ## Sessions -/

namespace Session

/-- A session without a watcher. -/
structure Unopened (configuration : Configuration) (client : Client) (session : Session) : Prop where
  configuration : session.configuration = configuration
  client : session.client = client
  watch : session.watch = none

section Unopened

variable {configuration : Configuration} {client : Client} {session : Session} {fault : Fault}

theorem Unopened.openWatcher (unopened : Unopened configuration client session)
    (failed : (Watcher.openWith (options configuration) client).report.outcome = .error fault) :
    Unopened configuration client session.openWatcher := by
  obtain ⟨same, same', absent⟩ := unopened
  subst same same'
  simp only [Session.openWatcher, failed]
  split <;> exact ⟨rfl, rfl, absent⟩

/-- Nothing that the program does on its own gives it a watcher but opening one. -/
theorem Unopened.advance (unopened : Unopened configuration client session)
    (failed : (Watcher.openWith (options configuration) client).report.outcome = .error fault) :
    Unopened configuration client session.advance := by
  have opening := unopened.openWatcher failed
  obtain ⟨same, same', absent⟩ := unopened
  cases phase : session.phase with
  | connecting =>
      simp only [Session.advance, phase, connect]
      split
      · exact ⟨same, same', absent⟩
      · split <;> exact ⟨same, same', absent⟩
  | opening => simpa [Session.advance, phase] using opening
  | leaving outcome =>
      simp only [Session.advance, phase, leave]
      split <;> exact ⟨same, same', absent⟩
  | _ =>
      simp only [Session.advance, phase, absent]
      exact ⟨same, same', absent⟩

theorem Unopened.step (unopened : Unopened configuration client session)
    (failed : (Watcher.openWith (options configuration) client).report.outcome = .error fault)
    (move : Move) : Unopened configuration client (session.step move) := by
  cases move with
  | advance => exact unopened.advance failed
  | listen | deliver item =>
      simp only [Session.step, watcherMoves, unopened.watch]
      exact unopened
  | interrupt | straggle =>
      simp only [Session.step, interrupt, straggle, unopened.watch]
      split <;> first | exact unopened | contradiction

/-- A session whose opening fails never has a watcher. -/
theorem unopened_of_run
    (failed : (Watcher.openWith (options configuration) client).report.outcome = .error fault)
    (hostname : String) (moves : List Move) :
    Unopened configuration client ((start configuration hostname client).run moves) := by
  refine run_induction (motive := fun _ state => Unopened configuration client state)
    ⟨rfl, rfl, rfl⟩ ?_ moves
  rintro before state move unopened rfl
  exact unopened.step failed move

end Unopened

end Session

namespace Watcher

/-- Opening a watcher is all or nothing.  If the channel would have no room or a pattern cannot be
    compiled, nothing is listed, and otherwise containers are listed once.  If opening fails, no
    listener was started and nobody subscribes, whatever the owner of the watcher wanted to be told, and
    no run of a session with these settings ever has a watcher.  If it succeeds, the listener was
    started last and has not taken a step, and the channel has been filled with the notices of the
    containers that the filter admits, in the order of the listing, without ever being full. -/
theorem opening_is_all_or_nothing (options : Options) (client : Client) :
    (Refused options → (openWith options client).listings = 0 ∧
      ∃ fault, (openWith options client).report.outcome = .error fault) ∧
    (NameFilter.Textual options.settings → ¬ Refused options →
      (openWith options client).listings = 1) ∧
    (∀ fault, (openWith options client).report.outcome = .error fault →
      LeavesNothing (openWith options client) ∧
      ∀ configuration hostname moves, Session.options configuration = options →
        ((Session.start configuration hostname client).run moves).watch = none) ∧
    ∀ watch, (openWith options client).report.outcome = .ok watch →
      StartsLast (openWith options client) watch ∧ Fresh options client watch := by
  refine ⟨?_, ?_, ?_, ?_⟩
  · intro refused
    exact openWith_of_refused refused client
  · intro textual usable
    exact listings_of_usable textual usable client
  · intro fault failed
    refine ⟨leavesNothing_of_unopened failed, ?_⟩
    rintro configuration hostname moves rfl
    exact (Session.unopened_of_run failed hostname moves).watch
  · intro watch opened
    exact ⟨startsLast_of_opened opened, fresh_of_opened opened⟩

theorem textual_exampleOptions : NameFilter.Textual exampleOptions.settings :=
  ⟨nofun, nofun, ⟨_, rfl⟩, ⟨_, rfl⟩⟩

/-- Two containers that the filter admits are listed where there is room for one notice, so that the
    channel gets room for both.  Nothing is listed where a pattern cannot be compiled.  An entry that
    cannot be decoded is met by a listing, the only thing that is done, although the owner wanted to be
    told of failures. -/
theorem opening_is_all_or_nothing_of_example :
    (∃ watch, (openWith exampleOptions { containers := [webContainer, webContainer] }).listings = 1 ∧
      StartsLast (openWith exampleOptions { containers := [webContainer, webContainer] }) watch ∧
      Fresh exampleOptions { containers := [webContainer, webContainer] } watch ∧
      watch.state.channel.length = 2) ∧
    (openWith ⟨{ includesPattern := .text "(" }, 1, .absent⟩ exampleClient).listings = 0 ∧
    ((Session.start { includesPattern := "(", bufferSize := 1 } "h" exampleClient).run
      [.advance, .advance, .listen]).watch = none ∧
    (openWith exampleOptions { containers := [webContainer, .int 7] }).listings = 1 ∧
    LeavesNothing (openWith exampleOptions { containers := [webContainer, .int 7] }) := by
  have usable : ¬ Refused exampleOptions := by
    rintro (small | ⟨_, _, source, filled, -⟩ | ⟨_, _, source, filled, -⟩)
    · exact absurd small (by decide)
    · cases source
      exact filled rfl
    · cases source
      exact filled rfl
  have refused : Refused ⟨{ includesPattern := .text "(" }, 1, .absent⟩ :=
    .inr (.inl ⟨"(", _, rfl, by decide, rfl⟩)
  obtain ⟨watch, opened, both⟩ : ∃ watch,
      (openWith exampleOptions { containers := [webContainer, webContainer] }).report.outcome
        = .ok watch ∧ watch.state.channel.length = 2 := ⟨_, rfl, rfl⟩
  obtain ⟨-, listed, -, opens⟩ :=
    opening_is_all_or_nothing exampleOptions { containers := [webContainer, webContainer] }
  obtain ⟨unlisted, -, unopened, -⟩ :=
    opening_is_all_or_nothing ⟨{ includesPattern := .text "(" }, 1, .absent⟩ exampleClient
  obtain ⟨none, fault, failed⟩ := unlisted refused
  obtain ⟨-, listed', unopened', -⟩ :=
    opening_is_all_or_nothing exampleOptions { containers := [webContainer, .int 7] }
  obtain ⟨fault', failed'⟩ : ∃ fault,
      (openWith exampleOptions { containers := [webContainer, .int 7] }).report.outcome
        = .error fault := ⟨_, rfl⟩
  exact ⟨⟨watch, listed textual_exampleOptions usable, (opens watch opened).1, (opens watch opened).2,
      both⟩, none, (unopened fault failed).2 _ _ _ rfl, listed' textual_exampleOptions usable,
    (unopened' fault' failed').1⟩

end Watcher

end ContainerWatch
