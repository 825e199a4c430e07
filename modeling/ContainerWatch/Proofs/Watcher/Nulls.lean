import ContainerWatch.Proofs.Agreement
import ContainerWatch.Proofs.Watcher.Versions

/-!
# Nulls for what is missing

A null under a key that is read of a container, of a payload or of an actor is the same as no such key:
the same container or message is decoded, with the same empty values, and watchers go the same way.
It is otherwise among the attributes of an actor.  A null under the name there is a name, with which
nothing can be done, and a null under the image is an image, in which no group can be searched.
-/

namespace ContainerWatch

/-! ## What is decoded -/

namespace Engine

section Decoded

variable {entry payload other actor attributes : Entries}

/-- The values of a container whose entry holds nothing, or a null, under a key. -/
structure Container.EmptyWhereNull (container : Container) (entry : Entries) : Prop where
  id : entry.getNull "Id" = .null → container.id = .text ""
  names : entry.getNull "Names" = .null → container.names = [] ∧ container.name = .text ""
  labels : entry.getNull "Labels" = .null → container.labels = []
  image : entry.getNull "Image" = .null → container.image = .text ""
  created : entry.getNull "Created" = .null → container.created = 0

theorem Container.emptyWhereNull_of_decode {container : Container}
    (decoded : Container.decode (.dict entry) = .ok container) : container.EmptyWhereNull entry := by
  rw [Container.decode_dict] at decoded
  obtain ⟨names, named, decoded⟩ := exists_of_bind_eq_ok decoded
  obtain ⟨labels, labelled, decoded⟩ := exists_of_bind_eq_ok decoded
  obtain ⟨created, dated, decoded⟩ := exists_of_bind_eq_ok decoded
  cases decoded
  refine ⟨fun missing => ?_, fun missing => ?_, fun missing => ?_, fun missing => ?_,
    fun missing => ?_⟩
  · simp only [missing, Value.orElse_null]
  · rw [missing] at named
    cases named
    exact ⟨rfl, rfl⟩
  · rw [missing] at labelled
    cases labelled
    rfl
  · simp only [missing, Value.orElse_null]
  · rw [integerUnder, missing] at dated
    cases dated
    rfl

/-- The values of a message whose payload and actor hold nothing, or a null, under a key, and whose
    attributes hold nothing. -/
structure Message.EmptyWhereNull (message : Message) (payload actor attributes : Entries) :
    Prop where
  objectType : payload.getNull "Type" = .null → message.objectType = .text ""
  status : payload.getNull "status" = .null → payload.getNull "Action" = .null →
    message.status = .text ""
  actorId : actor.getNull "ID" = .null → payload.getNull "id" = .null → message.actorId = .text ""
  name : attributes.get? "name" = none → message.name = .text ""
  image : payload.getNull "from" = .null → attributes.get? "image" = none → message.image = .text ""
  time : payload.getNull "time" = .null → message.time = 0
  timeNano : payload.getNull "timeNano" = .null → message.timeNano = 0

/-- A message has its empty values where its payload holds nothing. -/
theorem Message.emptyWhereNull_of_decode {message : Message} (found : actorIn payload = .ok actor)
    (described : attributesIn actor = .ok attributes)
    (decoded : Message.decode (.dict payload) = .ok message) :
    message.EmptyWhereNull payload actor attributes := by
  rw [Message.decode_of_parts found described] at decoded
  obtain ⟨time, timed, decoded⟩ := exists_of_bind_eq_ok decoded
  obtain ⟨timeNano, exactly, decoded⟩ := exists_of_bind_eq_ok decoded
  cases decoded
  refine ⟨fun missing => ?_, fun missing missing' => ?_, fun missing missing' => ?_,
    fun missing => ?_, fun missing missing' => ?_, fun missing => ?_, fun missing => ?_⟩
  · simp only [missing, Value.orElse_null]
  · simp only [missing, missing', Value.orElse_null]
  · simp only [missing, missing', Value.orElse_null]
  · simp only [Message.name, missing, Option.getD_none]
  · simp only [missing, missing', Value.orElse_null, Option.getD_none]
  · rw [integerUnder, missing] at timed
    cases timed
    rfl
  · rw [integerUnder, missing] at exactly
    cases exactly
    rfl

/-- The second payload has nulls for what the first one does not hold, be it of its own or in its
    actor. -/
inductive NullsInPayload (payload other : Entries) : Prop
  | keys (adds : Entries.AddsNulls payload other)
  | actor {keyed actor nulled : Entries} (adds : Entries.AddsNulls payload keyed)
      (found : actorIn payload = .ok actor) (inActor : Entries.AddsNulls actor nulled)
      (put : other = withActor keyed nulled)

theorem NullsInPayload.decode (nulls : NullsInPayload payload other) :
    Message.decode (.dict other) = Message.decode (.dict payload) := by
  have alike {keyed : Entries} (adds : Entries.AddsNulls payload keyed) : ReadAlike payload keyed :=
    readAlike_of_actor (adds.agreeOn payloadKeys) (adds.getNull "Actor")
  cases nulls with
  | keys adds => exact (alike adds).decode.symm
  | @actor keyed actor nulled adds found inActor put =>
      have kept : actorIn keyed = .ok actor := by rw [actorIn, adds.getNull, ← actorIn, found]
      rw [put, (alike adds).decode]
      exact (readAlike_withActor kept (inActor.agreeOn actorKeys)).decode.symm

/-- The payload with a null among the attributes of its actor. -/
def withNullAttribute (payload actor attributes : Entries) (name : String) : Entries :=
  withAttributes payload actor (attributes.put (.text name) .null)

end Decoded

end Engine

/-! ## What is told of nulls among attributes -/

namespace Sighting

open Engine Journal

section Told

variable {payload actor attributes : Entries} {message : Message} {filter : NameFilter}

/-- A message that a container started or stopped, at an instant that can be represented. -/
def IsTransition (message : Message) : Prop :=
  message.objectType = .text "container" ∧ ∃ started happened,
    startedIn message.status = .ok (some started) ∧ message.instant = .ok happened

/-- Of a message that reports a transition is told what its sighting tells. -/
theorem noticeOfMessage_of_transition {started : Bool} {happened : Instant}
    (about : message.objectType = .text "container")
    (changed : startedIn message.status = .ok (some started))
    (dated : message.instant = .ok happened) (filter : NameFilter) :
    (noticeOfMessage filter message).outcome
      = (notice? filter ⟨message.actorId, message.attributes, message.name, message.image, started,
          happened⟩).outcome := by
  rw [noticeOfMessage_of_instant about changed dated, Report.bind_of_ok (Report.note_outcome _ _ _)]

/-- How a container is described does not matter to a message that reports no transition. -/
theorem noticeOfMessage_of_not_transition (other : ¬IsTransition message) (filter : NameFilter)
    (attributes : Entries) (image : Value) :
    (noticeOfMessage filter { message with attributes := attributes, image := image }).outcome
      = (noticeOfMessage filter message).outcome := by
  have same : isAboutContainer { message with attributes := attributes, image := image }
      = isAboutContainer message := rfl
  have dated : Message.instant { message with attributes := attributes, image := image }
      = message.instant := rfl
  simp only [noticeOfMessage_outcome, same, dated]
  cases about : isAboutContainer message with
  | false => rfl
  | true =>
      cases changed : startedIn message.status with
      | error fault => rfl
      | ok change =>
          cases change with
          | none => rfl
          | some started =>
              cases happens : message.instant with
              | error fault => rfl
              | ok happened =>
                  exact absurd ⟨(isAboutContainer_iff message).mp about, started, happened, changed,
                    happens⟩ other

/-- A null in the place of a name. -/
def nullNameFault : Fault := .ofMessage .lacking "'NoneType' object has no attribute 'startswith'"

/-- A null in the place of an image. -/
def nullImageFault : Fault :=
  .ofMessage .type "expected string or bytes-like object, got 'NoneType'"

/-- A message, and the same with a null under the name that is missing among its attributes.  If it
    reports a transition, the null ends in a fault. -/
structure NullName (message nulled : Message) : Prop where
  others : nulled = { message with attributes := message.attributes.put (.text "name") .null }
  missing : message.name = .text ""
  null : nulled.name = .null
  fails : IsTransition message → ∀ filter,
    (noticeOfMessage filter nulled).outcome = .error nullNameFault
  told : ¬IsTransition message → ∀ filter,
    (noticeOfMessage filter nulled).outcome = (noticeOfMessage filter message).outcome

/-- A message, and the same with a null under the image that is missing among its attributes.  Where
    the payload tells the image elsewhere nothing is different.  Otherwise, if the message reports a
    transition of a container whose name is known and whose group is not told by a label, the null ends
    in a fault. -/
structure NullImage (payload : Entries) (message nulled : Message) : Prop where
  others : nulled = { message with
    attributes := message.attributes.put (.text "image") .null
    image := (payload.getNull "from").orElse .null }
  missing : message.image = (payload.getNull "from").orElse (.text "")
  fails : (payload.getNull "from").isTruthy = false → IsTransition message →
    (message.attributes.getNull Identity.groupLabel).isTruthy = false →
    ∀ name, Identity.nameOf message.attributes message.name = .ok name →
    ∀ filter, (noticeOfMessage filter nulled).outcome = .error nullImageFault
  told : (payload.getNull "from").isTruthy = true ∨ ¬IsTransition message ∨
      (message.attributes.getNull Identity.groupLabel).isTruthy = true ∨
      (∃ fault, Identity.nameOf message.attributes message.name = .error fault) →
    ∀ filter, (noticeOfMessage filter nulled).outcome = (noticeOfMessage filter message).outcome

/-- A null under a missing name ends in a fault exactly if the name is asked for. -/
theorem nullName_put (missing : message.attributes.get? "name" = none) :
    NullName message { message with attributes := message.attributes.put (.text "name") .null } := by
  have null : Message.name { message with attributes := message.attributes.put (.text "name") .null }
      = .null := by
    simp [Message.name, Entries.get?_put]
  refine ⟨rfl, by simp [Message.name, missing], null, ?_, fun other filter =>
    noticeOfMessage_of_not_transition other filter _ message.image⟩
  rintro ⟨about, started, happened, changed, dated⟩ filter
  rw [noticeOfMessage_of_transition (by exact about) (by exact changed) (by exact dated),
    notice?_outcome, null]
  rfl

/-- A null in the place of an image that is told nowhere else ends in a fault exactly if the image is
    asked for. -/
theorem nullImage_put (payload : Entries)
    (pictured : message.image = (payload.getNull "from").orElse (.text "")) :
    NullImage payload message { message with
      attributes := message.attributes.put (.text "image") .null
      image := (payload.getNull "from").orElse .null } := by
  -- The other attributes are as they were, so that the container is called what it was called.
  have called : (message.attributes.put (.text "image") .null).get? "name"
      = message.attributes.get? "name" := by
    rw [Entries.get?_put, if_neg (by decide)]
  have named (raw : Value) : Identity.nameOf (message.attributes.put (.text "image") .null) raw
      = Identity.nameOf message.attributes raw :=
    nameOf_congr (Entries.getNull_put_of_ne _ _ (by decide)) raw
  have grouped (image : Value) : Identity.groupOf (message.attributes.put (.text "image") .null) image
      = Identity.groupOf message.attributes image :=
    groupOf_congr (Entries.getNull_put_of_ne _ _ (by decide)) image
  have told (started : Bool) (happened : Instant) (about : message.objectType = .text "container")
      (changed : startedIn message.status = .ok (some started))
      (dated : message.instant = .ok happened) (filter : NameFilter) :
      (noticeOfMessage filter { message with
        attributes := message.attributes.put (.text "image") .null
        image := (payload.getNull "from").orElse .null }).outcome
        = (notice? filter ⟨message.actorId, message.attributes, message.name,
            (payload.getNull "from").orElse .null, started, happened⟩).outcome := by
    rw [noticeOfMessage_of_transition (by exact about) (by exact changed) (by exact dated),
      notice?_outcome, notice?_outcome]
    simp only [Message.name, called, named, grouped]
  refine ⟨rfl, pictured, ?_, ?_⟩
  · rintro untold ⟨about, started, happened, changed, dated⟩ ungrouped name resolved filter
    rw [told started happened about changed dated, notice?_outcome]
    simp only [resolved, Identity.groupOf, ungrouped, Value.orElse, untold]
    rfl
  · intro reason filter
    by_cases transition : IsTransition message
    · obtain ⟨about, started, happened, changed, dated⟩ := transition
      rw [told started happened about changed dated,
        noticeOfMessage_of_transition about changed dated, notice?_outcome, notice?_outcome, pictured]
      rcases reason with elsewhere | other | labelled | ⟨fault, unnamed⟩
      · simp only [Value.orElse, elsewhere, if_true]
      · exact absurd ⟨about, started, happened, changed, dated⟩ other
      · simp only [Identity.groupOf, labelled, if_true]
      · simp only [unnamed]
        rfl
    · exact noticeOfMessage_of_not_transition transition filter _ _

end Told

end Sighting

/-! ## Watchers -/

namespace Watcher

open Engine Journal Sighting

/-- Two entries of the listing are the same but for nulls for what the first one does not hold. -/
inductive NullsInEntry : Value → Value → Prop
  | same (entry : Value) : NullsInEntry entry entry
  | nulls {entry other : Entries} (adds : Entries.AddsNulls entry other) :
      NullsInEntry (.dict entry) (.dict other)

/-- Two items are the same but for nulls for what the first one does not hold. -/
inductive NullsInItem : StreamItem → StreamItem → Prop
  | same (item : StreamItem) : NullsInItem item item
  | nulls {payload other : Entries} (nulls : NullsInPayload payload other) :
      NullsInItem (.payload (.dict payload)) (.payload (.dict other))

theorem NullsInEntry.decode {entry other : Value} (nulls : NullsInEntry entry other) :
    Container.decode other = Container.decode entry := by
  cases nulls with
  | same => rfl
  | nulls adds => exact (Container.decode_of_agreeOn (adds.agreeOn containerKeys)).symm

theorem NullsInItem.sameItem {item other : StreamItem} (nulls : NullsInItem item other) :
    SameItem item other := by
  cases nulls with
  | same => exact .same item
  | nulls nulls => exact .payload nulls.decode.symm

variable {client : Client} {containers : List Value} {items : List StreamItem}
  {afterClose : AfterClose}

theorem decodeAll_nulls {entries others : List Value}
    (nulls : List.Forall₂ NullsInEntry entries others) :
    Client.decodeAll others = Client.decodeAll entries := by
  induction nulls with
  | nil => rfl
  | cons first _ ih => simp only [Client.decodeAll, first.decode, ih]

theorem openWith_nulls (options : Options)
    (nulls : List.Forall₂ NullsInEntry client.containers containers) :
    openWith options { client with containers := containers } = openWith options client := by
  have listed : Client.list { client with containers := containers } = client.list := by
    simp only [Client.list]
    cases client.listFault with
    | some fault => rfl
    | none => exact decodeAll_nulls nulls
  have told (filter : NameFilter) : snapshot filter { client with containers := containers }
      = snapshot filter client := by
    rw [snapshot, snapshot, Conduct.list, listed, Conduct.list]
  have filled (filter : NameFilter) : fill options { client with containers := containers } filter
      = fill options client filter := by
    simp only [fill, told]
    rfl
  simp only [openWith, filled]

/-- A null is the same as nothing in an entry of the listing, in a payload and in an actor.  Watchers of
    entries and payloads that differ in such nulls are opened alike and go the same way, for what is
    decoded is the same, with empty values for what is missing.  It is not so among the attributes of an
    actor, where a null under the name or the image stands for one.  Such a null ends in a fault as soon
    as the name or the image is asked for, and makes no difference before. -/
theorem nulls_count_as_nothing_but_in_attributes (options : Options)
    (listed : List.Forall₂ NullsInEntry client.containers containers)
    (fed : List.Forall₂ NullsInItem client.items items)
    (last : SameAfterClose client.afterClose afterClose) :
    OpensInStep (openWith options client)
      (openWith options { client with
        containers := containers
        items := items
        afterClose := afterClose }) ∧
    (∀ entry other, NullsInEntry entry other → Container.decode other = Container.decode entry) ∧
    (∀ entry container, Container.decode (.dict entry) = .ok container →
      container.EmptyWhereNull entry) ∧
    (∀ payload other, NullsInPayload payload other →
      Message.decode (.dict other) = Message.decode (.dict payload)) ∧
    (∀ payload actor attributes message, actorIn payload = .ok actor →
      attributesIn actor = .ok attributes → Message.decode (.dict payload) = .ok message →
      message.EmptyWhereNull payload actor attributes ∧
      (attributes.get? "name" = none → ∃ nulled, NullName message nulled ∧
        Message.decode (.dict (withNullAttribute payload actor attributes "name")) = .ok nulled) ∧
      (attributes.get? "image" = none → ∃ nulled, NullImage payload message nulled ∧
        Message.decode (.dict (withNullAttribute payload actor attributes "image")) = .ok nulled)) := by
  refine ⟨?_, fun entry other nulls => nulls.decode,
    fun entry container decoded => Container.emptyWhereNull_of_decode decoded,
    fun payload other nulls => nulls.decode, ?_⟩
  · rw [← openWith_nulls options listed]
    exact opensInStep_of_sameItems options (fed.imp fun _ _ nulls => nulls.sameItem) last
  · intro payload actor attributes message found described decoded
    obtain ⟨rfl, pictured⟩ := Message.described_of_decode found described decoded
    refine ⟨Message.emptyWhereNull_of_decode found described decoded, fun missing => ?_,
      fun missing => ?_⟩
    · refine ⟨_, nullName_put missing, ?_⟩
      have kept : (message.attributes.put (.text "name") .null).get? "image"
          = message.attributes.get? "image" := by
        rw [Entries.get?_put, if_neg (by decide)]
      rw [withNullAttribute, Message.decode_withAttributes found described, decoded, kept, ← pictured]
      rfl
    · rw [missing] at pictured
      refine ⟨_, nullImage_put payload pictured, ?_⟩
      have null : (message.attributes.put (.text "image") .null).get? "image" = some .null := by
        rw [Entries.get?_put, if_pos rfl]
      rw [withNullAttribute, Message.decode_withAttributes found described, decoded, null]
      rfl

/-- An actor without attributes. -/
def bareActor : Entries := [(.text "ID", .text "c1")]

/-- A message that a container was started of which only the identifier is known. -/
def barePayload : Entries := [
  (.text "Type", .text "container"), (.text "status", .text "start"),
  (.text "Actor", .dict bareActor), (.text "time", .int 60)]

/-- A running container of which only the identifier is known. -/
def bareEntry : Entries := [(.text "Id", .text "w1")]

/-- An engine that knows little of two containers. -/
def bareClient : Client :=
  { containers := [.dict bareEntry], items := [.payload (.dict barePayload)] }

/-- What it lists, with a null. -/
def nulledEntry : Entries := bareEntry.put (.text "Names") .null

/-- What it reports, with nulls. -/
def nulledPayload : Entries :=
  withActor (barePayload.put (.text "from") .null) (bareActor.put (.text "Attributes") .null)

/-- A container and a message of which little is known, with nulls in the places of what is missing. -/
theorem nulls_count_as_nothing_of_example :
    (∃ watch watch' last last',
      (openWith exampleOptions bareClient).report.outcome = .ok watch ∧
      (openWith exampleOptions { bareClient with
        containers := [.dict nulledEntry]
        items := [.payload (.dict nulledPayload)] }).report.outcome = .ok watch' ∧
      Watcher.run? watch.setup watch.state (.take :: List.replicate 9 .listen) = some last ∧
      Watcher.run? watch'.setup watch'.state (.take :: List.replicate 9 .listen) = some last' ∧
      last.channel.length = 1 ∧ last'.channel = last.channel) ∧
    (∃ container, Container.decode (.dict nulledEntry) = .ok container ∧
      container.name = .text "" ∧ container.image = .text "") ∧
    ∃ message nameless imageless, Message.decode (.dict barePayload) = .ok message ∧
      message.name = .text "" ∧ message.image = .text "" ∧
      Message.decode (.dict (withNullAttribute barePayload bareActor [] "name")) = .ok nameless ∧
      (noticeOfMessage ⟨[], [], none, none⟩ nameless).outcome = .error nullNameFault ∧
      Message.decode (.dict (withNullAttribute barePayload bareActor [] "image")) = .ok imageless ∧
      (noticeOfMessage ⟨[], [], none, none⟩ imageless).outcome = .error nullImageFault := by
  have entry : NullsInEntry (.dict bareEntry) (.dict nulledEntry) :=
    .nulls (Entries.addsNulls_put rfl)
  have item : NullsInItem (.payload (.dict barePayload)) (.payload (.dict nulledPayload)) :=
    .nulls (.actor (Entries.addsNulls_put rfl) rfl (Entries.addsNulls_put rfl) rfl)
  have listed : List.Forall₂ NullsInEntry bareClient.containers [.dict nulledEntry] :=
    .cons entry .nil
  have fed : List.Forall₂ NullsInItem bareClient.items [.payload (.dict nulledPayload)] :=
    .cons item .nil
  obtain ⟨opens, entries, empties, _, attributes⟩ :=
    nulls_count_as_nothing_but_in_attributes exampleOptions listed fed (.same _)
  obtain ⟨watch', opened', _, _, runs⟩ := opens.opens _ rfl
  obtain ⟨last', ran, alike⟩ := runs (.take :: List.replicate 9 .listen)
    (.take :: List.replicate 9 .listen) _ (List.forall₂_same.mpr fun move _ => .same move) rfl
  have empty := empties bareEntry _ rfl
  obtain ⟨bare, name, image⟩ := attributes barePayload bareActor [] _ rfl rfl rfl
  obtain ⟨nameless, unnamed, called⟩ := name rfl
  obtain ⟨imageless, unpictured, pictured⟩ := image rfl
  refine ⟨⟨_, watch', _, last', rfl, opened', rfl, ran, rfl, ?_⟩,
    ⟨_, entries _ _ entry, (empty.names rfl).2, empty.image rfl⟩,
    _, nameless, imageless, rfl, bare.name rfl, bare.image rfl rfl, called,
    unnamed.fails ⟨rfl, true, ⟨60000000, by decide, by decide⟩, rfl, rfl⟩ _, pictured,
    unpictured.fails rfl ⟨rfl, true, ⟨60000000, by decide, by decide⟩, rfl, rfl⟩ rfl _ rfl _⟩
  rw [alike.rest]
  rfl

set_option maxRecDepth 4000 in
/-- It is not so that a null is the same as nothing everywhere: among the attributes of an actor, a null
    under the name fails a listener that publishes a notice if there is no name at all. -/
theorem null_name_fails_listener :
    ∃ watch watch' last last',
      (openWith exampleOptions { items := [.payload (.dict barePayload)] }).report.outcome
        = .ok watch ∧
      (openWith exampleOptions { items :=
        [.payload (.dict (withNullAttribute barePayload bareActor [] "name"))] }).report.outcome
        = .ok watch' ∧
      Watcher.run? watch.setup watch.state (List.replicate 14 .listen) = some last ∧
      Watcher.run? watch'.setup watch'.state (List.replicate 14 .listen) = some last' ∧
      last.failure = none ∧ last.channel.map (·.name) = [Value.text ""] ∧
      last'.channel = [] ∧ last'.failure = some (.listening
        (.text "'NoneType' object has no attribute 'startswith'") (some nullNameFault)) :=
  ⟨_, _, _, _, rfl, rfl, rfl, rfl, rfl, rfl, rfl, rfl⟩

end Watcher

end ContainerWatch
