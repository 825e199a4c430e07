import ContainerWatch.Engine.Container
import ContainerWatch.Engine.Message
import ContainerWatch.Proofs.Entries
import ContainerWatch.Proofs.Reports

/-!
# What is read of a payload

Of an entry of the listing and of a payload of the feed only certain keys are read, and a null under
one of them is the same as nothing.  So two descriptions that agree under these keys are decoded
alike, be it to the same container or message or to the same error.  An older engine says some things
twice in a payload.  What it says under the older keys can be left out.

The attributes of an actor are kept as they are.  There a null under the name is the name of the
message, and a null under the image is its image unless the image is told elsewhere.
-/

namespace ContainerWatch

namespace Value

/-- Nothing counts as nothing. -/
@[simp] theorem orElse_null (default : Value) : null.orElse default = default := rfl

@[simp] theorem orElse_self (value : Value) : value.orElse value = value := by simp [orElse]

@[simp] theorem orElse_orElse (value default : Value) :
    value.orElse (value.orElse default) = value.orElse default := by
  by_cases counts : value.isTruthy = true <;> simp [orElse, counts]

/-- An empty text counts as nothing, and so is what stands for it. -/
@[simp] theorem orElse_emptyText (s : String) : (text s).orElse (.text "") = .text s := by
  by_cases empty : s = ""
  · rw [empty]
    rfl
  · simp [orElse, isTruthy, empty]

@[simp] theorem orElse_emptyDict (entries : Entries) :
    (dict entries).orElse (.dict []) = .dict entries := by
  cases entries <;> rfl

end Value

namespace Entries

/-- The entries but those under some texts. -/
def without (entries : Entries) (names : List String) : Entries :=
  entries.filter fun entry => !names.any fun name => entry.1.sameKey (.text name)

theorem get?_without (entries : Entries) (names : List String) (name : String) :
    (entries.without names).get? name = if name ∈ names then none else entries.get? name := by
  rw [get?, without, List.find?_filter]
  by_cases left : name ∈ names
  · rw [if_pos left, Option.map_eq_none_iff, List.find?_eq_none]
    intro entry _ found
    obtain ⟨kept, here⟩ := of_decide_eq_true found
    have cut : (names.any fun other => entry.1.sameKey (.text other)) = true :=
      List.any_eq_true.mpr ⟨name, left, here⟩
    rw [cut] at kept
    cases kept
  · rw [if_neg left, get?]
    congr 2
    funext entry
    rw [Bool.eq_iff_iff, decide_eq_true_iff]
    refine and_iff_right_of_imp fun here => ?_
    rw [Bool.not_eq_true', List.any_eq_false]
    intro other among cut
    rw [Value.sameKey_text] at here cut
    cases here.symm.trans cut
    exact left among

theorem getNull_without (entries : Entries) (names : List String) (name : String) :
    (entries.without names).getNull name = if name ∈ names then .null else entries.getNull name := by
  rw [getNull, get?_without]
  by_cases left : name ∈ names
  · rw [if_pos left, if_pos left]
    rfl
  · rw [if_neg left, if_neg left]
    rfl

/-- Two dictionaries hold the same under some texts, where a null is the same as nothing. -/
def AgreeOn (names : List String) (first second : Entries) : Prop :=
  ∀ name ∈ names, first.getNull name = second.getNull name

theorem agreeOn_put {names : List String} {name : String} (entries : Entries) (value : Value)
    (other : name ∉ names) : AgreeOn names entries (entries.put (.text name) value) := by
  intro key among
  have apart : name ≠ key := fun same => other (same ▸ among)
  exact (getNull_put_of_ne entries value apart).symm

theorem agreeOn_without {names left : List String} (entries : Entries)
    (others : ∀ name ∈ left, name ∉ names) : AgreeOn names entries (entries.without left) := by
  intro key among
  rw [getNull_without, if_neg fun member => others key member among]

/-- The second dictionary is the first one with nulls under some texts under which nothing was. -/
def AddsNulls (entries other : Entries) : Prop :=
  ∀ name, other.get? name = entries.get? name ∨
    entries.get? name = none ∧ other.get? name = some .null

/-- Nulls where nothing was are the same as nothing. -/
theorem AddsNulls.getNull {entries other : Entries} (adds : AddsNulls entries other)
    (name : String) : other.getNull name = entries.getNull name := by
  rcases adds name with same | ⟨missing, null⟩
  · rw [Entries.getNull, same, Entries.getNull]
  · rw [Entries.getNull, null, Entries.getNull, missing]
    rfl

/-- Nulls where nothing was change nothing. -/
theorem AddsNulls.agreeOn {entries other : Entries} (adds : AddsNulls entries other)
    (names : List String) : AgreeOn names entries other :=
  fun name _ => (adds.getNull name).symm

theorem AddsNulls.refl (entries : Entries) : AddsNulls entries entries := fun _ => .inl rfl

theorem addsNulls_put {entries : Entries} {name : String} (missing : entries.get? name = none) :
    AddsNulls entries (entries.put (.text name) .null) := by
  intro other
  by_cases same : name = other
  · subst same
    exact .inr ⟨missing, by rw [get?_put, if_pos rfl]⟩
  · exact .inl (by rw [get?_put, if_neg same])

end Entries

namespace Engine

/-! ## Running containers -/

/-- The keys that are read of an entry of the listing. -/
def containerKeys : List String := ["Id", "Names", "Labels", "Image", "Created"]

/-- The parts of an entry of the listing in the order in which they are read. -/
theorem Container.decode_dict (entry : Entries) :
    Container.decode (.dict entry) = (do
      let names ← itemsOf ((entry.getNull "Names").orElse (.tuple []))
      let labels ← entriesOf ((entry.getNull "Labels").orElse (.dict []))
      let created ← integerUnder entry "Created"
      return {
        id := (entry.getNull "Id").orElse (.text "")
        names := names
        labels := labels
        image := (entry.getNull "Image").orElse (.text "")
        created := created }) := rfl

theorem Container.decode_of_agreeOn {first second : Entries}
    (agree : Entries.AgreeOn containerKeys first second) :
    Container.decode (.dict first) = Container.decode (.dict second) := by
  simp only [Container.decode_dict, integerUnder, agree "Id" (by decide),
    agree "Names" (by decide), agree "Labels" (by decide), agree "Image" (by decide),
    agree "Created" (by decide)]

/-! ## Messages -/

/-- The keys that are read of a payload of the feed, besides that of its actor. -/
def payloadKeys : List String := ["Type", "status", "Action", "id", "from", "time", "timeNano"]

/-- The keys that are read of an actor. -/
def actorKeys : List String := ["ID", "Attributes"]

/-- The actor of a payload. -/
def actorIn (payload : Entries) : Except PayloadError Entries :=
  lookupEntries ((payload.getNull "Actor").orElse (.dict []))

/-- The attributes of an actor. -/
def attributesIn (actor : Entries) : Except PayloadError Entries :=
  entriesOf ((actor.getNull "Attributes").orElse (.dict []))

/-- Two actors hold the same under the keys that are read, or neither of them is an actor. -/
inductive SameActor : Except PayloadError Entries → Except PayloadError Entries → Prop
  | actors {first second : Entries} (agree : Entries.AgreeOn actorKeys first second) :
      SameActor (.ok first) (.ok second)
  | none (error : PayloadError) : SameActor (.error error) (.error error)

theorem SameActor.refl (actor : Except PayloadError Entries) : SameActor actor actor := by
  cases actor with
  | error error => exact .none error
  | ok entries => exact .actors fun _ _ => rfl

/-- Two payloads hold the same under all keys that are read. -/
structure ReadAlike (first second : Entries) : Prop where
  keys : Entries.AgreeOn payloadKeys first second
  actor : SameActor (actorIn first) (actorIn second)

/-- The parts of a payload in the order in which they are read. -/
theorem Message.decode_dict (payload : Entries) :
    Message.decode (.dict payload) = (do
      let actor ← actorIn payload
      let attributes ← attributesIn actor
      let time ← integerUnder payload "time"
      let timeNano ← integerUnder payload "timeNano"
      return {
        objectType := (payload.getNull "Type").orElse (.text "")
        status := (payload.getNull "status").orElse ((payload.getNull "Action").orElse (.text ""))
        actorId := (actor.getNull "ID").orElse ((payload.getNull "id").orElse (.text ""))
        attributes := attributes
        image := (payload.getNull "from").orElse ((attributes.get? "image").getD (.text ""))
        time := time
        timeNano := timeNano }) := rfl

/-- Payloads that hold the same under the keys that are read are the same message. -/
theorem ReadAlike.decode {first second : Entries} (alike : ReadAlike first second) :
    Message.decode (.dict first) = Message.decode (.dict second) := by
  obtain ⟨keys, actor⟩ := alike
  simp only [Message.decode_dict, integerUnder, keys "Type" (by decide), keys "status" (by decide),
    keys "Action" (by decide), keys "id" (by decide), keys "from" (by decide),
    keys "time" (by decide), keys "timeNano" (by decide)]
  generalize actorIn first = one at actor ⊢
  generalize actorIn second = other at actor ⊢
  cases actor with
  | none error => rfl
  | actors agree =>
      simp only [attributesIn, bind, Except.bind, agree "ID" (by decide),
        agree "Attributes" (by decide)]

/-! ### Payloads with something changed -/

section Changed

variable {payload actor attributes : Entries}

/-- The payload with another actor. -/
def withActor (payload actor : Entries) : Entries := payload.put (.text "Actor") (.dict actor)

/-- The payload with other attributes of its actor. -/
def withAttributes (payload actor attributes : Entries) : Entries :=
  withActor payload (actor.put (.text "Attributes") (.dict attributes))

theorem actorIn_withActor (payload actor : Entries) :
    actorIn (withActor payload actor) = .ok actor := by
  simp [actorIn, withActor, Entries.getNull, Entries.get?_put, lookupEntries]

theorem attributesIn_put (actor attributes : Entries) :
    attributesIn (actor.put (.text "Attributes") (.dict attributes)) = .ok attributes := by
  simp [attributesIn, Entries.getNull, Entries.get?_put, entriesOf]

theorem readAlike_withActor {other : Entries} (found : actorIn payload = .ok actor)
    (agree : Entries.AgreeOn actorKeys actor other) : ReadAlike payload (withActor payload other) := by
  refine ⟨Entries.agreeOn_put payload _ (by decide), ?_⟩
  rw [found, actorIn_withActor]
  exact .actors agree

theorem readAlike_of_actor {other : Entries} (keys : Entries.AgreeOn payloadKeys payload other)
    (actor : other.getNull "Actor" = payload.getNull "Actor") : ReadAlike payload other := by
  refine ⟨keys, ?_⟩
  rw [actorIn, actorIn, actor]
  exact .refl _

/-- A message as it is put together from a payload, its actor and the attributes of that. -/
theorem Message.decode_of_parts (found : actorIn payload = .ok actor)
    (described : attributesIn actor = .ok attributes) :
    Message.decode (.dict payload) = (do
      let time ← integerUnder payload "time"
      let timeNano ← integerUnder payload "timeNano"
      return {
        objectType := (payload.getNull "Type").orElse (.text "")
        status := (payload.getNull "status").orElse ((payload.getNull "Action").orElse (.text ""))
        actorId := (actor.getNull "ID").orElse ((payload.getNull "id").orElse (.text ""))
        attributes := attributes
        image := (payload.getNull "from").orElse ((attributes.get? "image").getD (.text ""))
        time := time
        timeNano := timeNano }) := by
  rw [Message.decode_dict, found]
  simp only [bind, Except.bind, described]

/-- The attributes of a message are those of the actor, and its image is among them unless it is told
    elsewhere. -/
theorem Message.described_of_decode {message : Message} (found : actorIn payload = .ok actor)
    (described : attributesIn actor = .ok attributes)
    (decoded : Message.decode (.dict payload) = .ok message) :
    message.attributes = attributes ∧ message.image
      = (payload.getNull "from").orElse ((attributes.get? "image").getD (.text "")) := by
  rw [Message.decode_of_parts found described] at decoded
  obtain ⟨time, -, decoded⟩ := exists_of_bind_eq_ok decoded
  obtain ⟨timeNano, -, decoded⟩ := exists_of_bind_eq_ok decoded
  cases decoded
  exact ⟨rfl, rfl⟩

/-- A payload with other attributes is the same message but for its attributes and, unless that is told
    elsewhere, its image. -/
theorem Message.decode_withAttributes (found : actorIn payload = .ok actor)
    (described : attributesIn actor = .ok attributes) (other : Entries) :
    Message.decode (.dict (withAttributes payload actor other))
      = (Message.decode (.dict payload)).map fun message => { message with
          attributes := other
          image := (payload.getNull "from").orElse ((other.get? "image").getD (.text "")) } := by
  have kept : Entries.AgreeOn payloadKeys payload (withAttributes payload actor other) :=
    Entries.agreeOn_put payload _ (by decide)
  have same : (actor.put (.text "Attributes") (.dict other)).getNull "ID" = actor.getNull "ID" :=
    Entries.getNull_put_of_ne actor _ (by decide)
  have actors : actorIn (withAttributes payload actor other) = .ok _ := actorIn_withActor payload _
  rw [Message.decode_of_parts actors (attributesIn_put actor other),
    Message.decode_of_parts found described]
  simp only [integerUnder, same, ← kept "Type" (by decide), ← kept "status" (by decide),
    ← kept "Action" (by decide), ← kept "id" (by decide), ← kept "from" (by decide),
    ← kept "time" (by decide), ← kept "timeNano" (by decide)]
  cases integerOf ((payload.getNull "time").orElse (.int 0)) with
  | error error => rfl
  | ok time => cases integerOf ((payload.getNull "timeNano").orElse (.int 0)) <;> rfl

end Changed

/-! ### Older payloads -/

/-- The keys that newer engines leave out. -/
def legacyKeys : List String := ["status", "id", "from"]

/-- A payload says under the older keys what it says elsewhere: the action, the identifier of the
    actor, and the image among its attributes. -/
structure Redundant (payload : Entries) : Prop where
  status : payload.getNull "status" = payload.getNull "Action"
  id : ∀ actor, actorIn payload = .ok actor → payload.getNull "id" = actor.getNull "ID"
  image : ∀ actor attributes, actorIn payload = .ok actor → attributesIn actor = .ok attributes →
    payload.getNull "from" = attributes.getNull "image"

/-- What a payload says under older keys, and elsewhere again, can be left out. -/
theorem Redundant.decode_without {payload : Entries} (redundant : Redundant payload)
    {names : List String} (legacy : ∀ name ∈ names, name ∈ legacyKeys) :
    Message.decode (.dict (payload.without names)) = Message.decode (.dict payload) := by
  have kept : ∀ name, name ∉ legacyKeys →
      (payload.without names).getNull name = payload.getNull name :=
    fun name other => by rw [Entries.getNull_without, if_neg fun among => other (legacy name among)]
  have actors : actorIn (payload.without names) = actorIn payload := by
    rw [actorIn, kept "Actor" (by decide), actorIn]
  have statuses : ((payload.without names).getNull "status").orElse
      ((payload.getNull "Action").orElse (.text ""))
      = (payload.getNull "status").orElse ((payload.getNull "Action").orElse (.text "")) := by
    rw [Entries.getNull_without, redundant.status]
    split <;> simp
  rw [Message.decode_dict, Message.decode_dict, actors]
  simp only [integerUnder, kept "Type" (by decide), kept "Action" (by decide),
    kept "time" (by decide), kept "timeNano" (by decide), statuses]
  cases found : actorIn payload with
  | error error => rfl
  | ok actor =>
      have ids : (actor.getNull "ID").orElse (((payload.without names).getNull "id").orElse (.text ""))
          = (actor.getNull "ID").orElse ((payload.getNull "id").orElse (.text "")) := by
        rw [Entries.getNull_without, redundant.id actor found]
        split <;> simp
      cases described : attributesIn actor with
      | error error => simp only [bind, Except.bind, described]
      | ok attributes =>
          have images : ((payload.without names).getNull "from").orElse
              ((attributes.get? "image").getD (.text ""))
              = (payload.getNull "from").orElse ((attributes.get? "image").getD (.text "")) := by
            rw [Entries.getNull_without, redundant.image actor attributes found described,
              Entries.getNull]
            split <;> cases attributes.get? "image" <;> simp
          simp only [bind, Except.bind, described, ids, images]

end Engine

end ContainerWatch
