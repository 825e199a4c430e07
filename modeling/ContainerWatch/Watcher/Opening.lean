import ContainerWatch.Watcher.Conduct

/-!
# Opening a watcher

A watcher is opened in a fixed order: its settings are checked, the running containers are listed,
their notices are put on the channel, and only then the listener starts.  Nothing is listed if the
settings cannot be used, and no listener starts if anything goes wrong.
-/

namespace ContainerWatch.Watcher

open Engine Journal

/-- What a watcher is opened with. -/
structure Options where
  settings : FilterSettings
  /-- How many notices the channel has room for, at least. -/
  bufferSize : Int
  callback : Callback

/-- How many notices the channel has room for where nothing else is said. -/
def defaultBufferSize : Int := 100

/-- The entry that tells with which settings a watcher is opened. -/
def settingsMessage (settings : FilterSettings) : String :=
  "create events notif, excludes: " ++ (Value.list settings.excludes).quoted
    ++ ", includes: " ++ (Value.list settings.includes).quoted
    ++ ", includes_pattern: " ++ settings.includesPattern.quoted
    ++ ", excludes_pattern: " ++ settings.excludesPattern.quoted

/-- The fault of a channel without room. -/
def sizeFault (size : Int) : Fault :=
  .setting (.text "buffer_size")
    (.text ("must be positive, got " ++ String.ofList (Text.signedDecimal size))) .null none

/-- Check the settings, and make the filter of names. -/
def prepare (options : Options) : Report NameFilter := do
  Report.note .debug .watcher (settingsMessage options.settings)
  if options.bufferSize < 1 then
    .fail (sizeFault options.bufferSize)
  else
    .ofOutcome (NameFilter.ofSettings options.settings)

/-- The notices of running containers, in the order of the listing. -/
def noticesOf (filter : NameFilter) : List Container → Report (List Notice)
  | [] => return []
  | container :: containers => do
      match ← Sighting.noticeOfContainer filter container with
      | none => noticesOf filter containers
      | some notice => do
          Report.note .debug .watcher ("running container added, " ++ notice.quoted)
          return notice :: (← noticesOf filter containers)

/-- List the running containers, and make their notices. -/
def snapshot (filter : NameFilter) (client : Client) : Conduct (List Notice) := do
  let containers ← Conduct.list client
  Conduct.reporting do
    Report.note .debug .watcher
      ("total containers = " ++ String.ofList (Text.decimal containers.length))
    noticesOf filter containers

/-- How many notices the channel has room for: all of the snapshot fit, for nobody takes any before
    the watcher is open. -/
def capacityFor (size : Int) (snapshot : List Notice) : Nat := max size.toNat snapshot.length

/-- The capacity of the channel, and the entry that tells if it is raised for the snapshot. -/
def channelFor (size : Int) (snapshot : List Notice) : Report Nat := do
  let capacity := capacityFor size snapshot
  if size < capacity then
    Report.note .debug .watcher
      ("channel capacity raised to " ++ String.ofList (Text.decimal capacity)
        ++ " for the initial emit")
  return capacity

/-- The state with a notice put on the channel at once, which takes room. -/
def State.putNow (state : State) (notice : Notice) : Except Fault State :=
  if state.hasRoom then .ok (state.put notice) else .error ⟨.full, [], none⟩

/-- The state with notices put on the channel, one after the other. -/
def State.putAll (state : State) (notices : List Notice) : Except Fault State :=
  notices.foldlM State.putNow state

/-- Make a watcher whose channel is filled with the notices of a snapshot. -/
def watchOf (options : Options) (client : Client) (filter : NameFilter) (notices : List Notice) :
    Report Watch := do
  let capacity ← channelFor options.bufferSize notices
  let state ← Report.ofOutcome ((State.initial client.stream [] capacity).putAll notices)
  Report.note .debug .watcher "completed initial emit"
  return {
    setup := ⟨filter, client.subscribe, options.callback⟩
    state := state }

/-- List the running containers, and put their notices on the channel. -/
def fill (options : Options) (client : Client) (filter : NameFilter) : Conduct Watch := do
  let notices ← snapshot filter client
  Conduct.reporting (watchOf options client filter notices)

/-- How the opening of a watcher goes. -/
abbrev Opening := Conduct Watch

/-- Open a watcher: its listener is started last. -/
def openWith (options : Options) (client : Client) : Opening := do
  let filter ← Conduct.reporting (prepare options)
  let watch ← fill options client filter
  Conduct.start watch
  return watch

theorem length_le_capacityFor (size : Int) (snapshot : List Notice) :
    snapshot.length ≤ capacityFor size snapshot := Nat.le_max_right _ _

end ContainerWatch.Watcher
