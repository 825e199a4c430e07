import ContainerWatch.Proofs.Inertness
import ContainerWatch.Proofs.Watcher.Insertion

/-!
# What nothing is told of changes nothing

One more container in the listing, or one more payload in the feed, of which nothing is told.  The
watcher opens as it would without it, with the same room on its channel, and what it publishes and how
it fails is the same.  That holds as long as the time of what is left out can be represented: the time
is converted before the filter is asked, so a single container with a date out of range keeps a
watcher from opening, even if the filter leaves it out.
-/

namespace ContainerWatch

open Engine Journal Sighting

/-! ## Journals that have more entries -/

/-- The entry that tells how many containers are listed. -/
def totalEntry (count : Nat) : Entry :=
  .plain .debug .watcher ("total containers = " ++ String.ofList (Text.decimal count))

/-- The second journal has more entries than the first, and tells of one more container at most. -/
inductive AddsEntries : List Entry → List Entry → Prop
  | added {entries longer : List Entry} (more : entries.Sublist longer) : AddsEntries entries longer
  | counted (earlier : List Entry) (count : Nat) {later longer : List Entry}
      (more : later.Sublist longer) :
      AddsEntries (earlier ++ totalEntry count :: later)
        (earlier ++ totalEntry (count + 1) :: longer)

section AddsEntries

variable {entries longer : List Entry}

theorem AddsEntries.append_left (adds : AddsEntries entries longer) (before : List Entry) :
    AddsEntries (before ++ entries) (before ++ longer) := by
  cases adds with
  | added more => exact .added (more.append_left before)
  | counted earlier count more =>
      rw [← List.append_assoc, ← List.append_assoc]
      exact .counted (before ++ earlier) count more

theorem AddsEntries.append_right (adds : AddsEntries entries longer) (after : List Entry) :
    AddsEntries (entries ++ after) (longer ++ after) := by
  cases adds with
  | added more => exact .added (more.append_right after)
  | counted earlier count more =>
      rw [List.append_assoc, List.append_assoc, List.cons_append, List.cons_append]
      exact .counted earlier count (more.append_right after)

end AddsEntries

namespace Watcher

open Report

/-- A report that adds entries, followed by another. -/
theorem addsEntries_bind {α β : Type} {report longer : Report α}
    (same : longer.outcome = report.outcome) (adds : AddsEntries report.entries longer.entries)
    (next : α → Report β) :
    (longer >>= next).outcome = (report >>= next).outcome ∧
      AddsEntries (report >>= next).entries (longer >>= next).entries := by
  cases ended : report.outcome with
  | error fault =>
      rw [bind_of_error ended, bind_of_error (same.trans ended)]
      exact ⟨rfl, adds⟩
  | ok value =>
      rw [bind_of_ok ended, bind_of_ok (same.trans ended)]
      exact ⟨rfl, adds.append_right _⟩

/-! ## One more container -/

variable {filter : NameFilter} {container : Container} {entry : Value}

/-- A container of which nothing is told adds entries to the notices of a listing, and no notice. -/
theorem noticesOf_insert (told : (noticeOfContainer filter container).outcome = .ok none)
    (before after : List Container) :
    Extends (noticesOf filter (before ++ after)) (noticesOf filter (before ++ container :: after)) := by
  induction before with
  | nil =>
      rw [List.nil_append, List.nil_append, noticesOf, bind_of_ok told]
      exact ⟨rfl, List.sublist_append_right _ _⟩
  | cons first before ih =>
      refine .bind (.refl _) fun seen => ?_
      cases seen with
      | none => exact ih
      | some notice => exact .bind (.refl _) fun _ => .bind ih fun _ => .refl _

/-- An entry that can be read adds its container to the listing, if the others can be read. -/
theorem decodeAll_insert (decoded : Container.decode entry = .ok container)
    (before after : List Value) :
    (∃ fault, Client.decodeAll (before ++ after) = .error fault ∧
      Client.decodeAll (before ++ entry :: after) = .error fault) ∨
    ∃ earlier later, Client.decodeAll (before ++ after) = .ok (earlier ++ later) ∧
      Client.decodeAll (before ++ entry :: after) = .ok (earlier ++ container :: later) := by
  induction before with
  | nil =>
      simp only [List.nil_append, Client.decodeAll, decoded]
      cases Client.decodeAll after with
      | error fault => exact .inl ⟨fault, rfl, rfl⟩
      | ok later => exact .inr ⟨[], later, rfl, rfl⟩
  | cons first before ih =>
      simp only [List.cons_append, Client.decodeAll]
      cases Container.decode first with
      | error error => exact .inl ⟨error.fault, rfl, rfl⟩
      | ok other =>
          rcases ih with ⟨fault, failed, failed'⟩ | ⟨earlier, later, listed, listed'⟩
          · exact .inl ⟨fault, by rw [failed]; rfl, by rw [failed']; rfl⟩
          · exact .inr ⟨other :: earlier, later, by rw [listed]; rfl, by rw [listed']; rfl⟩

/-- The client lists one more container, if it can list the others. -/
theorem list_insert (decoded : Container.decode entry = .ok container) {client : Client}
    {before after : List Value} (listing : client.containers = before ++ after) :
    (∃ fault, client.list = .error fault ∧
      { client with containers := before ++ entry :: after }.list = .error fault) ∨
    ∃ earlier later, client.list = .ok (earlier ++ later) ∧
      { client with containers := before ++ entry :: after }.list
        = .ok (earlier ++ container :: later) := by
  unfold Client.list
  cases client.listFault with
  | some fault => exact .inl ⟨_, rfl, rfl⟩
  | none =>
      rw [listing]
      exact decodeAll_insert decoded before after

/-- The snapshot of containers that could be listed. -/
theorem snapshot_of_list {client : Client} {containers : List Container}
    (listed : client.list = .ok containers) :
    (snapshot filter client).report
      = ⟨totalEntry containers.length :: (noticesOf filter containers).entries,
          (noticesOf filter containers).outcome⟩ := by
  rw [snapshot, Conduct.bind_report, Report.bind_of_ok listed]
  rfl

theorem snapshot_of_unlisted {client : Client} {fault : Fault} (failed : client.list = .error fault) :
    (snapshot filter client).report = ⟨[], .error fault⟩ := by
  rw [snapshot, Conduct.bind_report, Report.bind_of_error failed]
  rfl

/-- A container of which nothing is told adds entries to the snapshot, and no notice. -/
theorem snapshot_insert (decoded : Container.decode entry = .ok container)
    (told : (noticeOfContainer filter container).outcome = .ok none) {client : Client}
    {before after : List Value} (listing : client.containers = before ++ after) :
    (snapshot filter { client with containers := before ++ entry :: after }).report.outcome
        = (snapshot filter client).report.outcome ∧
      AddsEntries (snapshot filter client).report.entries
        (snapshot filter { client with containers := before ++ entry :: after }).report.entries := by
  rcases list_insert decoded listing with ⟨fault, failed, failed'⟩ | ⟨earlier, later, listed, listed'⟩
  · rw [snapshot_of_unlisted failed, snapshot_of_unlisted failed']
    exact ⟨rfl, .added (.refl _)⟩
  · have one : (earlier ++ container :: later).length = (earlier ++ later).length + 1 := by
      simp only [List.length_append, List.length_cons]
      omega
    obtain ⟨same, more⟩ := noticesOf_insert told earlier later
    rw [snapshot_of_list listed, snapshot_of_list listed', one]
    exact ⟨same, .counted [] _ more⟩

/-- A container of which nothing is told makes no difference to how the channel is filled. -/
theorem fill_insert (options : Options) (decoded : Container.decode entry = .ok container)
    (told : (noticeOfContainer filter container).outcome = .ok none) {client : Client}
    {before after : List Value} (listing : client.containers = before ++ after) :
    (fill options { client with containers := before ++ entry :: after } filter).report.outcome
        = (fill options client filter).report.outcome ∧
      AddsEntries (fill options client filter).report.entries
        (fill options { client with containers := before ++ entry :: after } filter).report.entries := by
  obtain ⟨same, adds⟩ := snapshot_insert decoded told listing
  exact addsEntries_bind same adds _

/-- The second watcher is opened as the first one is, but for what is written. -/
structure OpensAlike (opening longer : Opening) : Prop where
  listings : longer.listings = opening.listings
  outcome : longer.report.outcome = opening.report.outcome
  entries : AddsEntries opening.report.entries longer.report.entries

/-- A container of which nothing is told makes no difference to how a watcher is opened. -/
theorem openWith_insert {options : Options} {client : Client} {before after : List Value}
    (inert : ∀ filter, NameFilter.ofSettings options.settings = .ok filter →
      InertEntry filter entry)
    (listing : client.containers = before ++ after) :
    OpensAlike (openWith options client)
      (openWith options { client with containers := before ++ entry :: after }) := by
  cases prepared : (prepare options).outcome with
  | error fault =>
      rw [openWith_of_fault prepared, openWith_of_fault prepared]
      exact ⟨rfl, rfl, .added (.refl _)⟩
  | ok filter =>
      have usable := (prepare_eq_ok_iff options filter).mp prepared
      obtain ⟨container, decoded, told⟩ := (inert filter usable.2).told
      obtain ⟨ended, adds⟩ := fill_insert options decoded told listing
      refine ⟨?_, ?_, ?_⟩
      · rw [listings_of_filter prepared, listings_of_filter prepared]
      · rw [openWith_report prepared, openWith_report prepared, ended]
      · rw [openWith_report prepared, openWith_report prepared]
        exact adds.append_left _

/-! ## One more payload -/

/-- The state with other items that are still to be read. -/
def State.unreading (state : State) (items : List StreamItem) : State :=
  state.varied state.listener items state.journal

/-- The watcher with other items that are still to be read. -/
def Watch.unreading (watch : Watch) (items : List StreamItem) : Watch :=
  { watch with state := watch.state.unreading items }

/-- A watcher is opened the same way whatever there is to be read. -/
theorem openWith_items (options : Options) (client : Client) (items : List StreamItem) :
    (openWith options { client with items := items }).listings = (openWith options client).listings ∧
    (openWith options { client with items := items }).report
      = ⟨(openWith options client).report.entries,
          (openWith options client).report.outcome.map (·.unreading items)⟩ := by
  obtain ⟨listings, report⟩ := openWith_feeding options client items client.afterClose
  refine ⟨listings, ?_⟩
  rw [report]
  cases ended : (openWith options client).report.outcome with
  | error fault => rfl
  | ok watch =>
      obtain ⟨_, _, _, _, _, _, _, fresh⟩ := openWith_eq_ok ended
      have fed : watch.feeding items client.afterClose = watch.unreading items := by
        rw [Watch.feeding, Watch.unreading, fresh]
        rfl
      simp only [Except.map, fed]

/-- The second watcher is opened as the first one is, and the two are equivalent. -/
structure WatchesAlike (opening longer : Opening) : Prop where
  listings : longer.listings = opening.listings
  entries : longer.report.entries = opening.report.entries
  fails : ∀ fault, opening.report.outcome = .error fault → longer.report.outcome = .error fault
  opens : ∀ watch, opening.report.outcome = .ok watch → ∃ other,
    longer.report.outcome = .ok other ∧ other.setup = watch.setup ∧
      Equivalent watch.setup watch.state other.state

/-- A payload of which nothing is told makes no difference to a watcher. -/
theorem openWith_insertPayload {options : Options} {client : Client} {payload : Value}
    {before after : List StreamItem}
    (inert : ∀ filter, NameFilter.ofSettings options.settings = .ok filter →
      InertPayload filter payload)
    (unread : client.items = before ++ after) :
    WatchesAlike (openWith options client)
      (openWith options { client with items := before ++ .payload payload :: after }) := by
  obtain ⟨listings, report⟩ := openWith_items options client (before ++ .payload payload :: after)
  refine ⟨listings, by rw [report], fun fault failed => ?_, fun watch opened => ?_⟩
  · rw [report, failed]
    rfl
  · obtain ⟨_, snapshot, made, _, _, _, _, fresh⟩ := openWith_eq_ok opened
    have waiting : watch.state.feed.stream.items = before ++ after := by
      rw [fresh]
      exact unread
    refine ⟨watch.unreading (before ++ .payload payload :: after), ?_, rfl,
      equivalent_of_inserted (inert _ made).told waiting⟩
    rw [report, opened]
    rfl

/-! ## Times that cannot be represented -/

theorem dated_of_listingTells {containers : List Container} {notices : List Notice}
    (tells : ListingTells filter containers notices) :
    ∀ container ∈ containers, ∃ instant, container.instant = .ok instant := by
  obtain ⟨tolds, all, -⟩ := tells
  have dated : List.Forall₂
      (fun container told => (∃ instant, container.instant = .ok instant) ∧
        ContainerTells filter container told) containers tolds :=
    all.imp fun container told tells => ⟨⟨tells.choose, tells.choose_spec.1⟩, tells⟩
  exact ((List.forall₂_and_left containers tolds).mp dated).1

/-- A watcher can be opened only if the time of every container that is listed can be represented. -/
theorem dated_of_opened {options : Options} {client : Client} {watch : Watch}
    (opened : (openWith options client).report.outcome = .ok watch) (listed : entry ∈ client.containers)
    (decoded : Container.decode entry = .ok container) :
    ∃ instant, container.instant = .ok instant := by
  obtain ⟨containers, snapshot, _, listing, tells, _, _, _⟩ := openWith_eq_ok opened
  obtain ⟨before, after, split⟩ := List.append_of_mem listed
  have others : { client with containers := before ++ after }.containers = before ++ after := rfl
  have whole := list_insert decoded others
  simp only [← split, listing] at whole
  rcases whole with ⟨fault, -, failed⟩ | ⟨earlier, later, -, ended⟩
  · cases failed
  · cases ended
    exact dated_of_listingTells tells container (by simp)

/-- A listener goes to close the feed over a message that cannot be converted. -/
theorem closing_of_inconvertible {setup : Setup} {state : State} {message : Message}
    (accepted : state.listener = .accepted message) (undated : ¬ Convertible message) :
    ∃ fault, nextPhase setup state = .closing (.failed fault) := by
  cases ended : (noticeOfMessage setup.filter message).outcome with
  | error fault => exact ⟨fault, by simp only [nextPhase, accepted, ended]⟩
  | ok told => exact absurd (convertible_of_told ended) undated

/-! ## Items of which nothing is told -/

/-- Options that leave out the container and the message of the example. -/
def leavingOptions : Options := ⟨{ excludes := [.text "web", .text "cache"] }, 1, .accepts⟩

/-- A running container that was created at a time that cannot be represented. -/
def misdatedContainer : Value :=
  .dict [(.text "Id", .text "w1"), (.text "Names", .list [.text "/web"]),
    (.text "Created", .int 1000000000000000000)]

/-- A message that the container of the example was started, at a time that cannot be represented. -/
def misdatedMessage : Value :=
  .dict [
    (.text "Type", .text "container"),
    (.text "status", .text "start"),
    (.text "time", .int 1000000000000000000),
    (.text "Actor", .dict [
      (.text "ID", .text "c1"),
      (.text "Attributes", .dict [(.text "name", .text "cache")])])]

/-- An engine with a running container that is left out, and a feed with that message. -/
def misdatedClient : Client :=
  { containers := [webContainer], items := [.payload misdatedMessage, .finish] }

/-- Items of which nothing is told change nothing, as long as they can be converted.  One more
    container in the listing, whose name is denied and whose time can be represented, leaves the
    opening of a watcher as it is and adds entries only.  So does one more payload in the feed, which
    is irrelevant or whose name is denied and which can be converted; and wherever a run has come to,
    with the payload to be read or without it, the same is published and recorded.  What cannot be
    converted does make a difference: a watcher opens only if the times of all listed containers can
    be represented, and a message that cannot be converted ends the feed in a failure. -/
theorem inert_items_change_nothing (options : Options) (client : Client) :
    (∀ before after entry, client.containers = before ++ after →
      (∀ filter, NameFilter.ofSettings options.settings = .ok filter → InertEntry filter entry) →
      OpensAlike (openWith options client)
        (openWith options { client with containers := before ++ entry :: after })) ∧
    (∀ before after payload, client.items = before ++ after →
      (∀ filter, NameFilter.ofSettings options.settings = .ok filter →
        InertPayload filter payload) →
      WatchesAlike (openWith options client)
        (openWith options { client with items := before ++ .payload payload :: after })) ∧
    ∀ watch, (openWith options client).report.outcome = .ok watch →
      (∀ moves state before after payload, run? watch.setup watch.state moves = some state →
        state.feed.stream.items = before ++ after → InertPayload watch.setup.filter payload →
        Equivalent watch.setup state (state.unreading (before ++ .payload payload :: after))) ∧
      (∀ entry ∈ client.containers, ∀ container, Container.decode entry = .ok container →
        ∃ instant, container.instant = .ok instant) ∧
      ∀ moves state message, run? watch.setup watch.state moves = some state →
        state.listener = .accepted message → ¬ Convertible message →
        ∃ fault, nextPhase watch.setup state = .closing (.failed fault) := by
  refine ⟨?_, ?_, fun watch opened => ⟨?_, ?_, ?_⟩⟩
  · intro before after entry listing inert
    exact openWith_insert inert listing
  · intro before after payload unread inert
    exact openWith_insertPayload inert unread
  · intro moves state before after payload _ unread inert
    exact equivalent_of_inserted inert.told unread
  · intro entry listed container decoded
    exact dated_of_opened opened listed decoded
  · intro moves state message _ accepted undated
    exact closing_of_inconvertible accepted undated

/-- A container and a message that are left out change nothing, and the message whose time cannot be
    represented ends the feed. -/
theorem inert_items_change_nothing_of_example :
    OpensAlike (openWith leavingOptions {}) (openWith leavingOptions { containers := [webContainer] }) ∧
    WatchesAlike (openWith leavingOptions { items := [.finish] })
      (openWith leavingOptions { items := [.payload cacheStarted, .finish] }) ∧
    ∃ watch state fault, (openWith leavingOptions misdatedClient).report.outcome = .ok watch ∧
      run? watch.setup watch.state (List.replicate 6 .listen) = some state ∧
      Equivalent watch.setup state (state.unreading [.payload cacheStarted, .finish]) ∧
      (∀ container, Container.decode webContainer = .ok container →
        ∃ instant, container.instant = .ok instant) ∧
      nextPhase watch.setup state = .closing (.failed fault) := by
  have entry : ∀ filter, NameFilter.ofSettings leavingOptions.settings = .ok filter →
      InertEntry filter webContainer := by
    intro filter made
    cases made
    exact ⟨_, rfl, ⟨⟨_, _, rfl, rfl⟩, _, rfl⟩, _, rfl⟩
  have payload : ∀ filter, NameFilter.ofSettings leavingOptions.settings = .ok filter →
      InertPayload filter cacheStarted := by
    intro filter made
    cases made
    exact ⟨_, rfl, .denied ⟨_, _, rfl, rfl⟩ ⟨_, rfl⟩, fun _ => ⟨_, rfl, fun _ => ⟨_, rfl⟩⟩⟩
  obtain ⟨opens, -, -⟩ := inert_items_change_nothing leavingOptions {}
  obtain ⟨-, watches, -⟩ := inert_items_change_nothing leavingOptions { items := [.finish] }
  obtain ⟨-, -, running⟩ := inert_items_change_nothing leavingOptions misdatedClient
  obtain ⟨watch, state, message, opened, made, ran, accepted, unread, undated⟩ :
      ∃ watch state message,
        (openWith leavingOptions misdatedClient).report.outcome = .ok watch ∧
        NameFilter.ofSettings leavingOptions.settings = .ok watch.setup.filter ∧
        run? watch.setup watch.state (List.replicate 6 .listen) = some state ∧
        state.listener = .accepted message ∧ state.feed.stream.items = [] ++ [.finish] ∧
        ¬ Convertible message := by
    refine ⟨_, _, _, rfl, rfl, rfl, rfl, rfl, fun convertible => ?_⟩
    obtain ⟨_, changed, dated⟩ := convertible rfl
    cases changed
    obtain ⟨_, dated⟩ := dated rfl
    cases dated
  obtain ⟨equivalent, dated, ends⟩ := running watch opened
  obtain ⟨fault, closing⟩ := ends _ state message ran accepted undated
  exact ⟨opens [] [] webContainer rfl entry, watches [] [.finish] cacheStarted rfl payload, watch,
    state, fault, opened, ran,
    equivalent _ state [] [.finish] cacheStarted ran unread (payload _ made),
    dated webContainer List.mem_cons_self, closing⟩

/-- A container that the filter leaves out keeps a watcher from opening if it was created at a time
    that cannot be represented. -/
theorem denied_container_keeps_from_opening :
    ∃ filter container fault,
      NameFilter.ofSettings leavingOptions.settings = .ok filter ∧
      Container.decode misdatedContainer = .ok container ∧ DeniedContainer filter container ∧
      (∃ watch, (openWith leavingOptions {}).report.outcome = .ok watch) ∧
      (openWith leavingOptions { containers := [misdatedContainer] }).report.outcome
        = .error fault :=
  ⟨_, _, _, rfl, rfl, ⟨⟨_, _, rfl, rfl⟩, _, rfl⟩, ⟨_, rfl⟩, rfl⟩

end Watcher

end ContainerWatch
