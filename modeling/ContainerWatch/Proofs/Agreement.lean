import ContainerWatch.Proofs.Engine.Payloads
import ContainerWatch.Proofs.Sightings

/-!
# Listing and feed agree

A container is told under one name and in one group, whether it is seen in the listing, which writes
its name with a slash and its labels apart, or in a message of the feed, which has all of them among
the attributes of an actor.  So a reader that learns of a container from the listing recognises it
when the feed reports that it has stopped.
-/

namespace ContainerWatch.Sighting

open Engine Journal

/-- An entry of the listing with the name, the labels and the image of a container. -/
structure Lists (entry : Entries) (name : String) (labels : Entries) (image : String) : Prop where
  names : ∃ others, entry.get? "Names" = some (.list (.text ("/" ++ name) :: others))
  labels : entry.get? "Labels" = some (.dict labels)
  image : entry.get? "Image" = some (.text image)

/-- The attributes with which the feed describes a container: its labels, and its name and image in
    the place of labels that are called so. -/
def attributesOf (name : String) (labels : Entries) (image : String) : Entries :=
  (labels.put (.text "name") (.text name)).put (.text "image") (.text image)

/-- Attributes that describe a container to the feed: what is found under any text is what is found
    in the labels with the name and the image in their places. -/
def Describes (attributes : Entries) (name : String) (labels : Entries) (image : String) : Prop :=
  ∀ key : String, attributes.get? key = (attributesOf name labels image).get? key

/-- A payload of the feed that reports that a container with a name, labels and an image has started
    or stopped. -/
structure Tidings (payload : Entries) (name : String) (labels : Entries) (image : String)
    (started : Bool) : Prop where
  kind : payload.get? "Type" = some (.text "container")
  status : startedIn ((payload.getNull "status").orElse
    ((payload.getNull "Action").orElse (.text ""))) = .ok (some started)
  actor : ∃ actor attributes : Entries, payload.get? "Actor" = some (.dict actor) ∧
    actor.get? "Attributes" = some (.dict attributes) ∧ Describes attributes name labels image
  source : payload.get? "from" = none ∨ payload.get? "from" = some (.text image)

/-- The entry that tells that a filter leaves a container out, and by which rule. -/
def leftOutEntry (name : Value) (rule : Rule) : Entry :=
  ⟨.info, .watcher, "container " ++ name.shown ++ " excluded", [("rule", .text rule.name)], none⟩

/-- What becomes of a sighting under a resolved name and group: the verdict of the filter decides
    whether there is a notice, and a sighting that is left out is noted with the rule that
    decided. -/
theorem notice?_of_verdict {filter : NameFilter} (sighting : Sighting) {name group : Value}
    {verdict : Verdict} (named : Identity.nameOf sighting.labels sighting.rawName = .ok name)
    (grouped : (Identity.groupOf sighting.labels sighting.image).outcome = .ok group)
    (decided : filter.decide name = .ok verdict) :
    notice? filter sighting =
      { entries := (Identity.groupOf sighting.labels sighting.image).entries
          ++ if verdict.allowed then [] else [leftOutEntry name verdict.rule]
        outcome := .ok (if verdict.allowed then
          some ⟨sighting.containerId, name, group, sighting.instant, .bool sighting.started⟩
          else none) } := by
  obtain ⟨allowed, rule⟩ := verdict
  cases found : Identity.groupOf sighting.labels sighting.image with
  | mk entries outcome =>
      rw [found] at grouped
      change outcome = .ok group at grouped
      subst grouped
      cases allowed <;>
        simp [notice?, named, found, decided, bind, Report.bind, Report.ofOutcome, pure,
          Report.write, leftOutEntry]

/-- A sighting on whose name the filter cannot decide ends in the fault of that. -/
theorem notice?_of_undecided {filter : NameFilter} {sighting : Sighting} {name group : Value}
    {fault : Fault} (named : Identity.nameOf sighting.labels sighting.rawName = .ok name)
    (grouped : (Identity.groupOf sighting.labels sighting.image).outcome = .ok group)
    (undecided : filter.decide name = .error fault) :
    (notice? filter sighting).outcome = .error fault := by
  cases found : Identity.groupOf sighting.labels sighting.image with
  | mk entries outcome =>
      rw [found] at grouped
      change outcome = .ok group at grouped
      subst grouped
      simp [notice?, named, found, undecided, bind, Report.bind, Report.ofOutcome]

theorem nameOf_congr {labels other : Entries}
    (same : other.getNull Identity.nameLabel = labels.getNull Identity.nameLabel) (raw : Value) :
    Identity.nameOf other raw = Identity.nameOf labels raw := by
  simp only [Identity.nameOf, Identity.nameOfText, same]

theorem groupOf_congr {labels other : Entries}
    (same : other.getNull Identity.groupLabel = labels.getNull Identity.groupLabel) (image : Value) :
    Identity.groupOf other image = Identity.groupOf labels image := by
  simp only [Identity.groupOf, same]

/-! ## The two descriptions -/

section Descriptions

variable {entry payload labels attributes : Entries} {name image : String} {started : Bool}
  {created time timeNano : Int}

/-- The container that an entry of the listing describes. -/
theorem Lists.decode (lists : Lists entry name labels image)
    (dated : integerUnder entry "Created" = .ok created) :
    ∃ others, Container.decode (.dict entry) = .ok
      { id := (entry.getNull "Id").orElse (.text "")
        names := .text ("/" ++ name) :: others
        labels := labels
        image := .text image
        created := created } := by
  obtain ⟨others, names⟩ := lists.names
  refine ⟨others, ?_⟩
  have items : itemsOf ((entry.getNull "Names").orElse (.tuple []))
      = .ok (.text ("/" ++ name) :: others) := by
    simp [Entries.getNull, names, Value.orElse, Value.isTruthy, itemsOf, itemsOf?]
  have labelled : entry.getNull "Labels" = .dict labels := by simp [Entries.getNull, lists.labels]
  have pictured : entry.getNull "Image" = .text image := by simp [Entries.getNull, lists.image]
  simp [Container.decode, lookupEntries, items, labelled, pictured, dated, bind, Except.bind, pure,
    Except.pure, entriesOf]

/-- Attributes and labels agree under every text but the two that the attributes have of their
    own. -/
theorem Describes.getNull (describes : Describes attributes name labels image) {key : String}
    (other : key ≠ "name" ∧ key ≠ "image") : attributes.getNull key = labels.getNull key := by
  have same : attributes.getNull key = (attributesOf name labels image).getNull key := by
    rw [Entries.getNull, describes key, Entries.getNull]
  rw [same, attributesOf, Entries.getNull_put_of_ne _ _ (Ne.symm other.2),
    Entries.getNull_put_of_ne _ _ (Ne.symm other.1)]

theorem Describes.get?_name (describes : Describes attributes name labels image) :
    attributes.get? "name" = some (.text name) := by
  rw [describes "name"]
  simp [attributesOf, Entries.get?_put]

theorem Describes.get?_image (describes : Describes attributes name labels image) :
    attributes.get? "image" = some (.text image) := by
  rw [describes "image"]
  simp [attributesOf, Entries.get?_put]

/-- A name with a slash in front and among the labels, or without and among the attributes, resolves
    to the same. -/
theorem Describes.nameOf (describes : Describes attributes name labels image)
    (plain : name.toList.head? ≠ some '/') :
    Identity.nameOf attributes (.text name) = Identity.nameOf labels (.text ("/" ++ name)) := by
  have bare : Identity.withoutSlash name.toList = name.toList := by
    cases letters : name.toList with
    | nil => rfl
    | cons c rest =>
        have noSlash : c ≠ '/' := by simpa [letters] using plain
        unfold Identity.withoutSlash
        split
        · simp_all
        · rfl
  have stripped : Identity.withoutSlash ("/" ++ name).toList = name.toList := by
    simp [Identity.withoutSlash]
  rw [nameOf_congr (describes.getNull (by decide))]
  simp only [Identity.nameOf, Identity.nameOfText, bare, stripped]

/-- Attributes and labels give an image the same group. -/
theorem Describes.groupOf (describes : Describes attributes name labels image) :
    Identity.groupOf attributes (.text image) = Identity.groupOf labels (.text image) :=
  groupOf_congr (describes.getNull (by decide)) (.text image)

/-- The message that a payload of the feed describes. -/
theorem Tidings.decode (tidings : Tidings payload name labels image started)
    (timed : integerUnder payload "time" = .ok time)
    (exactly : integerUnder payload "timeNano" = .ok timeNano) :
    ∃ message, Message.decode (.dict payload) = .ok message ∧
      message.objectType = .text "container" ∧ startedIn message.status = .ok (some started) ∧
      Describes message.attributes name labels image ∧ message.image = .text image := by
  obtain ⟨actor, attributes, found, among, describes⟩ := tidings.actor
  have source : (payload.getNull "from").orElse ((attributes.get? "image").getD (.text ""))
      = .text image := by
    rw [describes.get?_image]
    rcases tidings.source with absent | same
    · simp [Entries.getNull, absent, Value.orElse, Value.isTruthy]
    · simp [Entries.getNull, same, Value.orElse]
  have actors : payload.getNull "Actor" = .dict actor := by simp [Entries.getNull, found]
  have described : actor.getNull "Attributes" = .dict attributes := by simp [Entries.getNull, among]
  have kind : payload.getNull "Type" = .text "container" := by simp [Entries.getNull, tidings.kind]
  refine ⟨{
    objectType := .text "container"
    status := (payload.getNull "status").orElse ((payload.getNull "Action").orElse (.text ""))
    actorId := (actor.getNull "ID").orElse ((payload.getNull "id").orElse (.text ""))
    attributes := attributes
    image := .text image
    time := time
    timeNano := timeNano }, ?_, rfl, tidings.status, describes, rfl⟩
  simp [Message.decode, lookupEntries, actors, described, kind, source, timed, exactly, bind,
    Except.bind, pure, Except.pure, entriesOf]

/-- An image in words always has a group, be it an empty one. -/
theorem exists_groupOf (labels : Entries) (image : String) :
    ∃ group, (Identity.groupOf labels (.text image)).outcome = .ok group := by
  simp only [Identity.groupOf]
  split
  · exact ⟨_, rfl⟩
  · simp only [Identity.groupOfImage]
    split
    · exact ⟨_, rfl⟩
    · exact ⟨_, rfl⟩

end Descriptions

/-! ## What becomes of the two -/

/-- A running container whose instant is known is told as its sighting is. -/
theorem noticeOfContainer_of_instant {container : Container} {born : Instant}
    (dated : container.instant = .ok born) (filter : NameFilter) :
    noticeOfContainer filter container = notice? filter
      ⟨container.id, container.labels, container.name, container.image, true, born⟩ := by
  simp [noticeOfContainer, ofContainer, dated, bind, Report.bind, Report.ofOutcome]

/-- A message about a container that started or stopped is noted, and then told as its sighting
    is. -/
theorem noticeOfMessage_of_instant {message : Message} {started : Bool} {happened : Instant}
    (about : message.objectType = .text "container")
    (changed : startedIn message.status = .ok (some started))
    (dated : message.instant = .ok happened) (filter : NameFilter) :
    noticeOfMessage filter message = (do
      Report.note .debug .watcher ("api event " ++ message.quoted)
      notice? filter
        ⟨message.actorId, message.attributes, message.name, message.image, started, happened⟩) := by
  have kind := (isAboutContainer_iff message).mpr about
  simp [noticeOfMessage, ofMessage, kind, changed, ofTransition, dated, bind, Report.bind,
    Report.ofOutcome, Report.note, Report.write, pure]

/-- The container of an entry and the message of a payload are told alike, if they resolve to one
    name and one group: both give a notice under them, or the same rule leaves both out, or both end
    in the same fault. -/
def ToldAlike (filter : NameFilter) (container : Container) (message : Message) (started : Bool)
    (born happened : Instant) (name group : Value) : Prop :=
  match filter.decide name with
  | .ok ⟨true, _⟩ =>
      (noticeOfContainer filter container).outcome
        = .ok (some ⟨container.id, name, group, born, .bool true⟩) ∧
      (noticeOfMessage filter message).outcome
        = .ok (some ⟨message.actorId, name, group, happened, .bool started⟩)
  | .ok ⟨false, rule⟩ =>
      (noticeOfContainer filter container).outcome = .ok none ∧
      (noticeOfMessage filter message).outcome = .ok none ∧
      leftOutEntry name rule ∈ (noticeOfContainer filter container).entries ∧
      leftOutEntry name rule ∈ (noticeOfMessage filter message).entries
  | .error fault =>
      (noticeOfContainer filter container).outcome = .error fault ∧
      (noticeOfMessage filter message).outcome = .error fault

/-- A container and a message that resolve to one name and one group are told alike. -/
theorem toldAlike_of_resolved {container : Container} {message : Message} {started : Bool}
    {born happened : Instant} {name group : Value} (filter : NameFilter)
    (listed : Identity.nameOf container.labels container.name = .ok name)
    (listedGroup : (Identity.groupOf container.labels container.image).outcome = .ok group)
    (reported : Identity.nameOf message.attributes message.name = .ok name)
    (reportedGroup : (Identity.groupOf message.attributes message.image).outcome = .ok group)
    (about : message.objectType = .text "container")
    (changed : startedIn message.status = .ok (some started))
    (bornAt : container.instant = .ok born) (happenedAt : message.instant = .ok happened) :
    ToldAlike filter container message started born happened name group := by
  let listedAs : Sighting :=
    ⟨container.id, container.labels, container.name, container.image, true, born⟩
  let reportedAs : Sighting :=
    ⟨message.actorId, message.attributes, message.name, message.image, started, happened⟩
  unfold ToldAlike
  rw [noticeOfContainer_of_instant bornAt, noticeOfMessage_of_instant about changed happenedAt]
  cases decided : filter.decide name with
  | error fault =>
      have first : (notice? filter listedAs).outcome = .error fault :=
        notice?_of_undecided listed listedGroup decided
      have second : (notice? filter reportedAs).outcome = .error fault :=
        notice?_of_undecided reported reportedGroup decided
      exact ⟨first, by simpa [bind, Report.bind, Report.note, Report.write] using second⟩
  | ok verdict =>
      have first := notice?_of_verdict listedAs listed listedGroup decided
      have second := notice?_of_verdict reportedAs reported reportedGroup decided
      obtain ⟨allowed, rule⟩ := verdict
      rw [first, second]
      cases allowed with
      | true => exact ⟨rfl, rfl⟩
      | false => simp [bind, Report.bind, Report.note, Report.write]

/-- The listing and the feed agree on a container: under every filter, the name, the labels and the
    image of a container resolve to the same name and group whether they stand in the listing or in
    a message that it has started or stopped, and the two are told alike. -/
theorem listing_and_feed_agree (filter : NameFilter) {entry payload labels : Entries}
    {name image : String} {started : Bool} {created time timeNano : Int}
    (plain : name.toList.head? ≠ some '/')
    (lists : Lists entry name labels image) (tidings : Tidings payload name labels image started)
    (dated : integerUnder entry "Created" = .ok created)
    (timed : integerUnder payload "time" = .ok time)
    (exactly : integerUnder payload "timeNano" = .ok timeNano) :
    ∃ container message resolved group,
      Container.decode (.dict entry) = .ok container ∧
      Message.decode (.dict payload) = .ok message ∧
      Identity.nameOf container.labels container.name = .ok resolved ∧
      Identity.nameOf message.attributes message.name = .ok resolved ∧
      (Identity.groupOf container.labels container.image).outcome = .ok group ∧
      (Identity.groupOf message.attributes message.image).outcome = .ok group ∧
      ∀ born happened, container.instant = .ok born → message.instant = .ok happened →
        ToldAlike filter container message started born happened resolved group := by
  obtain ⟨others, listed⟩ := lists.decode dated
  obtain ⟨message, reported, about, changed, describes, pictured⟩ := tidings.decode timed exactly
  obtain ⟨group, grouped⟩ := exists_groupOf labels image
  have sameGroup : (Identity.groupOf message.attributes message.image).outcome = .ok group := by
    rw [pictured, describes.groupOf, grouped]
  have called : message.name = .text name := by
    rw [Message.name, describes.get?_name, Option.getD_some]
  have sameName : Identity.nameOf message.attributes message.name
      = Identity.nameOf labels (.text ("/" ++ name)) := by
    rw [called, describes.nameOf plain]
  refine ⟨_, message, Identity.nameOfText labels ("/" ++ name), group, listed, reported, rfl,
    sameName, grouped, sameGroup, ?_⟩
  intro born happened bornAt happenedAt
  exact toldAlike_of_resolved filter rfl grouped sameName sameGroup about changed bornAt happenedAt

/-- A running container in the listing; one of its labels is called `name`. -/
def exampleEntry : Entries :=
  [(.text "Id", .text "c1"), (.text "Names", .list [.text "/web", .text "/alias/web"]),
    (.text "Labels", .dict [(.text "name", .text "front"), (.text "tier", .text "one")]),
    (.text "Image", .text "hub/shop/web:1"), (.text "Created", .int 60)]

/-- The same container in the feed, with its image in front. -/
def exampleAttributes : Entries :=
  [(.text "image", .text "hub/shop/web:1"), (.text "name", .text "web"),
    (.text "tier", .text "one")]

theorem describes_exampleAttributes : Describes exampleAttributes "web"
    [(.text "name", .text "front"), (.text "tier", .text "one")] "hub/shop/web:1" := by
  intro key
  by_cases image : key = "image"
  · rw [image]
    rfl
  · by_cases name : key = "name"
    · rw [name]
      rfl
    · rw [attributesOf, Entries.get?_put, Entries.get?_put, if_neg (Ne.symm image),
        if_neg (Ne.symm name)]
      simp [exampleAttributes, Entries.get?, List.find?_cons, Ne.symm image, Ne.symm name]

/-- The message that the same container has stopped. -/
def examplePayload : Entries :=
  [(.text "Type", .text "container"), (.text "Action", .text "die"),
    (.text "Actor", .dict [(.text "ID", .text "c1"),
      (.text "Attributes", .dict exampleAttributes)]),
    (.text "time", .int 90)]

/-- The container is announced and reported to have stopped under one name and one group. -/
theorem listing_and_feed_agree_of_example :
    ∃ container message born happened,
      Container.decode (.dict exampleEntry) = .ok container ∧
      Message.decode (.dict examplePayload) = .ok message ∧
      (noticeOfContainer ⟨[.text "db"], [], none, none⟩ container).outcome
        = .ok (some ⟨container.id, .text "web", .text "shop", born, .bool true⟩) ∧
      (noticeOfMessage ⟨[.text "db"], [], none, none⟩ message).outcome
        = .ok (some ⟨message.actorId, .text "web", .text "shop", happened, .bool false⟩) := by
  have lists : Lists exampleEntry "web"
      [(.text "name", .text "front"), (.text "tier", .text "one")] "hub/shop/web:1" :=
    ⟨⟨_, rfl⟩, rfl, rfl⟩
  have tidings : Tidings examplePayload "web"
      [(.text "name", .text "front"), (.text "tier", .text "one")] "hub/shop/web:1" false :=
    ⟨rfl, rfl, ⟨_, _, rfl, rfl, describes_exampleAttributes⟩, .inl rfl⟩
  obtain ⟨container, message, name, group, listed, reported, called, _, grouped, _, alike⟩ :=
    listing_and_feed_agree ⟨[.text "db"], [], none, none⟩ (by decide) lists tidings rfl rfl rfl
  cases listed
  cases reported
  cases called
  cases grouped
  exact ⟨_, _, ⟨60000000, by decide, by decide⟩, ⟨90000000, by decide, by decide⟩, rfl, rfl,
    alike _ _ rfl rfl⟩

end ContainerWatch.Sighting
