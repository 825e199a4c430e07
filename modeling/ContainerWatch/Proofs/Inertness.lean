import ContainerWatch.Proofs.Agreement

/-!
# Containers and payloads of which nothing is told

Nothing is told of a container whose name the filter denies, nor of a message that is about something
else, reports another state, or names such a container.  It is found out whether that is so only after
the time has been converted, and for a message also after its state has been looked up.  So an item of
which nothing is to be told still ends in a fault if its time cannot be represented, or its state
cannot be looked up.
-/

namespace ContainerWatch.Sighting

open Engine Journal

/-- The filter denies the name to which labels and a raw name resolve. -/
def Denies (filter : NameFilter) (labels : Entries) (rawName : Value) : Prop :=
  ∃ name rule, Identity.nameOf labels rawName = .ok name ∧
    filter.decide name = .ok ⟨false, rule⟩

/-- A container is denied, and its image is a text. -/
structure DeniedContainer (filter : NameFilter) (container : Container) : Prop where
  denies : Denies filter container.labels container.name
  image : ∃ image, container.image = .text image

/-- A message is irrelevant, or it names a container that is denied and has a text as its image. -/
inductive IdleMessage (filter : NameFilter) (message : Message) : Prop
  | otherObject (other : message.objectType ≠ .text "container")
  | otherState (unchanged : ∀ started, startedIn message.status ≠ .ok (some started))
  | denied (denies : Denies filter message.attributes message.name)
      (image : ∃ image, message.image = .text image)

/-- A message gets as far as the filter without a fault: unless it is about something else its state
    can be looked up, and if it reports that a container started or stopped its time can be
    represented. -/
def Convertible (message : Message) : Prop :=
  message.objectType = .text "container" →
    ∃ change, startedIn message.status = .ok change ∧
      (change.isSome = true → ∃ instant, message.instant = .ok instant)

variable {filter : NameFilter}

/-- A sighting that the filter denies gives no notice. -/
theorem notice?_of_denies {sighting : Sighting}
    (denies : Denies filter sighting.labels sighting.rawName)
    (image : ∃ image, sighting.image = .text image) :
    (notice? filter sighting).outcome = .ok none := by
  obtain ⟨name, rule, named, decided⟩ := denies
  obtain ⟨image, pictured⟩ := image
  obtain ⟨group, grouped⟩ := exists_groupOf sighting.labels image
  rw [← pictured] at grouped
  rw [notice?_of_verdict sighting named grouped decided]
  rfl

/-- Nothing is told of a denied container, provided that its time can be represented. -/
theorem noticeOfContainer_of_denied {container : Container}
    (denied : DeniedContainer filter container) :
    (noticeOfContainer filter container).outcome = .ok none ↔
      ∃ instant, container.instant = .ok instant := by
  constructor
  · intro told
    obtain ⟨instant, dated, -⟩ := (noticeOfContainer_eq_ok_iff filter container none).mp told
    exact ⟨instant, dated⟩
  · rintro ⟨instant, dated⟩
    rw [noticeOfContainer_of_instant dated]
    exact notice?_of_denies denied.denies denied.image

theorem convertible_of_told {message : Message} {told : Option Notice}
    (ended : (noticeOfMessage filter message).outcome = .ok told) : Convertible message := by
  intro about
  cases (noticeOfMessage_eq_ok_iff filter message told).mp ended with
  | otherObject other => exact absurd about other
  | otherState _ unchanged => exact ⟨none, unchanged, nofun⟩
  | @transition started instant _ _ changed dated _ =>
      exact ⟨some started, changed, fun _ => ⟨instant, dated⟩⟩

/-- Nothing is told of an idle message, provided that it can be converted. -/
theorem noticeOfMessage_of_idle {message : Message} (idle : IdleMessage filter message) :
    (noticeOfMessage filter message).outcome = .ok none ↔ Convertible message := by
  refine ⟨convertible_of_told, fun convertible => ?_⟩
  by_cases about : message.objectType = .text "container"
  · obtain ⟨change, state, dated⟩ := convertible about
    cases change with
    | none => exact (noticeOfMessage_eq_ok_iff filter message none).mpr (.otherState about state)
    | some started =>
        obtain ⟨instant, dated⟩ := dated rfl
        cases idle with
        | otherObject other => exact absurd about other
        | otherState unchanged => exact absurd state (unchanged started)
        | denied denies image =>
            have told : (notice? filter ⟨message.actorId, message.attributes, message.name,
                message.image, started, instant⟩).outcome = .ok none :=
              notice?_of_denies denies image
            rw [notice?_eq_ok_iff] at told
            rw [noticeOfMessage_eq_ok_iff]
            exact .transition about state dated told
  · exact (noticeOfMessage_eq_ok_iff filter message none).mpr (.otherObject about)

/-! ## Items that change nothing -/

/-- An entry of the listing that can be read, whose container is denied, and whose time can be
    represented. -/
def InertEntry (filter : NameFilter) (entry : Value) : Prop :=
  ∃ container, Container.decode entry = .ok container ∧ DeniedContainer filter container ∧
    ∃ instant, container.instant = .ok instant

/-- A payload of the feed that can be read, and whose message is idle and can be converted. -/
def InertPayload (filter : NameFilter) (payload : Value) : Prop :=
  ∃ message, Message.decode payload = .ok message ∧ IdleMessage filter message ∧
    Convertible message

/-- Nothing is told of an entry that changes nothing. -/
theorem InertEntry.told {entry : Value} (inert : InertEntry filter entry) :
    ∃ container, Container.decode entry = .ok container ∧
      (noticeOfContainer filter container).outcome = .ok none := by
  obtain ⟨container, decoded, denied, dated⟩ := inert
  exact ⟨container, decoded, (noticeOfContainer_of_denied denied).mpr dated⟩

theorem InertPayload.told {payload : Value} (inert : InertPayload filter payload) :
    ∃ message, Message.decode payload = .ok message ∧
      (noticeOfMessage filter message).outcome = .ok none := by
  obtain ⟨message, decoded, idle, convertible⟩ := inert
  exact ⟨message, decoded, (noticeOfMessage_of_idle idle).mpr convertible⟩

end ContainerWatch.Sighting
