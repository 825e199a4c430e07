import ContainerWatch.Sighting
import ContainerWatch.Proofs.Reports
import Mathlib.Data.List.Forall2
import Mathlib.Data.List.ReduceOption

/-!
# What containers and payloads tell

What is to be told of a running container, or of a payload of the event feed, said without the order
in which it is found out: a sighting gives a notice under the resolved name if the filter admits that
name, and nothing if the filter leaves it out.  A container or payload of which neither can be said
ends in a fault.
-/

namespace ContainerWatch.Sighting

open Engine Journal

/-- What a sighting tells: a notice under the resolved name and group, or nothing if the filter
    leaves the resolved name out. -/
inductive Tells (filter : NameFilter) (sighting : Sighting) : Option Notice → Prop
  | admitted {name group : Value} {rule : Rule} :
      Identity.nameOf sighting.labels sighting.rawName = .ok name →
      (Identity.groupOf sighting.labels sighting.image).outcome = .ok group →
      filter.decide name = .ok ⟨true, rule⟩ →
      Tells filter sighting
        (some ⟨sighting.containerId, name, group, sighting.instant, .bool sighting.started⟩)
  | leftOut {name group : Value} {rule : Rule} :
      Identity.nameOf sighting.labels sighting.rawName = .ok name →
      (Identity.groupOf sighting.labels sighting.image).outcome = .ok group →
      filter.decide name = .ok ⟨false, rule⟩ →
      Tells filter sighting none

/-- What a running container tells: that it was started when it was created. -/
def ContainerTells (filter : NameFilter) (container : Container) (told : Option Notice) : Prop :=
  ∃ instant, container.instant = .ok instant ∧
    Tells filter ⟨container.id, container.labels, container.name, container.image, true, instant⟩ told

/-- What a listing tells: the notices of its containers, in their order. -/
def ListingTells (filter : NameFilter) (containers : List Container) (notices : List Notice) : Prop :=
  ∃ tolds, List.Forall₂ (ContainerTells filter) containers tolds ∧ notices = tolds.reduceOption

/-- What a message tells: nothing unless it is about a container that started or stopped. -/
inductive MessageTells (filter : NameFilter) (message : Message) : Option Notice → Prop
  | otherObject : message.objectType ≠ .text "container" → MessageTells filter message none
  | otherState :
      message.objectType = .text "container" →
      startedIn message.status = .ok none →
      MessageTells filter message none
  | transition {started : Bool} {instant : Instant} {told : Option Notice} :
      message.objectType = .text "container" →
      startedIn message.status = .ok (some started) →
      message.instant = .ok instant →
      Tells filter
        ⟨message.actorId, message.attributes, message.name, message.image, started, instant⟩ told →
      MessageTells filter message told

/-- What a payload of the feed tells, once it is decoded. -/
def PayloadTells (filter : NameFilter) (payload : Value) (told : Option Notice) : Prop :=
  ∃ message, Message.decode payload = .ok message ∧ MessageTells filter message told

/-- What the payloads of a feed tell, in their order: the notices of those before the first that ends
    in a fault. -/
def FeedTells (filter : NameFilter) (payloads : List Value) (notices : List Notice) : Prop :=
  ∃ sound rest tolds, payloads = sound ++ rest ∧
    List.Forall₂ (PayloadTells filter) sound tolds ∧ notices = tolds.reduceOption ∧
    ∀ payload ∈ rest.head?, ∀ told, ¬PayloadTells filter payload told

/-- What the translation of a payload comes to. -/
def noticeOfPayload (filter : NameFilter) (payload : Value) : Except Fault (Option Notice) :=
  match Message.decode payload with
  | .error error => .error error.fault
  | .ok message => (noticeOfMessage filter message).outcome

/-- The notices that payloads give, in order, up to the first payload that ends in a fault. -/
def noticesOfFeed (filter : NameFilter) : List Value → List Notice
  | [] => []
  | payload :: payloads =>
      match noticeOfPayload filter payload with
      | .error _ => []
      | .ok told => told.toList ++ noticesOfFeed filter payloads

/-- None of some payloads ends in a fault. -/
def AllTold (filter : NameFilter) (payloads : List Value) : Prop :=
  ∀ payload ∈ payloads, ∃ told, noticeOfPayload filter payload = .ok told

theorem notice?_eq_ok_iff (filter : NameFilter) (sighting : Sighting) (told : Option Notice) :
    (notice? filter sighting).outcome = .ok told ↔ Tells filter sighting told := by
  simp only [notice?, Report.bind_outcome_eq_ok, Report.ofOutcome_outcome]
  constructor
  · rintro ⟨name, named, group, grouped, ⟨allowed, rule⟩, decided, ended⟩
    cases allowed with
    | true =>
        simp only [if_true, Report.pure_outcome, Except.ok.injEq] at ended
        subst ended
        exact .admitted named grouped decided
    | false =>
        simp only [Bool.false_eq_true, if_false, Report.bind_outcome_eq_ok, Report.write_outcome,
          Report.pure_outcome, Except.ok.injEq] at ended
        obtain ⟨_, _, rfl⟩ := ended
        exact .leftOut named grouped decided
  · rintro (⟨named, grouped, decided⟩ | ⟨named, grouped, decided⟩)
    · exact ⟨_, named, _, grouped, _, decided, rfl⟩
    · exact ⟨_, named, _, grouped, _, decided, rfl⟩

/-- The notice of a running container is what the container tells. -/
theorem noticeOfContainer_eq_ok_iff (filter : NameFilter) (container : Container)
    (told : Option Notice) :
    (noticeOfContainer filter container).outcome = .ok told ↔
      ContainerTells filter container told := by
  simp only [noticeOfContainer, Report.bind_outcome_eq_ok, Report.ofOutcome_outcome,
    notice?_eq_ok_iff, ofContainer, ContainerTells]
  cases dated : container.instant with
  | error fault => simp
  | ok instant => simp

theorem isAboutContainer_iff (message : Message) :
    isAboutContainer message = true ↔ message.objectType = .text "container" := by
  unfold isAboutContainer
  split <;> simp_all

/-- Which sighting a message reports: none if it is about something else or reports another state, and
    otherwise that of its transition. -/
theorem ofMessage_eq_ok_iff (message : Message) (seen : Option Sighting) :
    (ofMessage message).outcome = .ok seen ↔
      (message.objectType ≠ .text "container" ∧ seen = none) ∨
      (message.objectType = .text "container" ∧ startedIn message.status = .ok none ∧ seen = none) ∨
      ∃ started instant, message.objectType = .text "container" ∧
        startedIn message.status = .ok (some started) ∧ message.instant = .ok instant ∧
        seen = some
          ⟨message.actorId, message.attributes, message.name, message.image, started, instant⟩ := by
  unfold ofMessage
  by_cases about : message.objectType = .text "container"
  · have kind := (isAboutContainer_iff message).mpr about
    simp only [kind, if_true, Report.bind_outcome_eq_ok, Report.ofOutcome_outcome]
    cases state : startedIn message.status with
    | error fault => simp [about]
    | ok change =>
        cases change with
        | none => simp [about, @eq_comm _ seen]
        | some started =>
            cases dated : message.instant with
            | error fault => simp [about, ofTransition, dated]
            | ok instant => simp [about, ofTransition, dated, @eq_comm _ seen]
  · have kind : isAboutContainer message = false := by
      simpa using mt (isAboutContainer_iff message).mp about
    simp [kind, about, @eq_comm _ seen]

/-- What is told of a sighting, without what is written on the way. -/
theorem notice?_outcome (filter : NameFilter) (sighting : Sighting) :
    (notice? filter sighting).outcome = (do
      let name ← Identity.nameOf sighting.labels sighting.rawName
      let group ← (Identity.groupOf sighting.labels sighting.image).outcome
      let verdict ← filter.decide name
      return if verdict.allowed then
        some ⟨sighting.containerId, name, group, sighting.instant, .bool sighting.started⟩
      else none) := by
  simp only [notice?, Report.bind_outcome, Report.ofOutcome_outcome]
  congr 1
  funext name
  congr 1
  funext group
  congr 1
  funext verdict
  cases verdict.allowed <;> rfl

/-- What is told of a message, without what is written on the way. -/
theorem noticeOfMessage_outcome (filter : NameFilter) (message : Message) :
    (noticeOfMessage filter message).outcome =
      if isAboutContainer message then do
        match ← startedIn message.status with
        | none => return none
        | some started =>
            let happened ← message.instant
            (notice? filter ⟨message.actorId, message.attributes, message.name, message.image, started,
              happened⟩).outcome
      else return none := by
  unfold noticeOfMessage ofMessage
  cases isAboutContainer message with
  | false => rfl
  | true =>
      simp only [if_true, Report.bind_outcome, Report.ofOutcome_outcome]
      cases startedIn message.status with
      | error fault => rfl
      | ok change =>
          cases change with
          | none => rfl
          | some started =>
              simp only [ofTransition]
              cases message.instant <;> rfl

/-! ## What is written on the way -/

section Written

variable {property : Entry → Prop}

theorem groupOf_all
    (ungrouped : ∀ image, property (.plain .debug .identity ("no group for " ++ image)))
    (labels : Entries) (image : Value) : (Identity.groupOf labels image).All property := by
  simp only [Identity.groupOf]
  split
  · exact nofun
  · unfold Identity.groupOfImage
    split
    · split
      · exact nofun
      · exact .bind (Report.all_note (ungrouped _)) fun _ _ => nofun
    · exact nofun

/-- What is written while a sighting is told: what its group takes, and that the filter leaves it
    out. -/
theorem notice?_all
    (ungrouped : ∀ image, property (.plain .debug .identity ("no group for " ++ image)))
    (leftOut : ∀ name fields,
      property ⟨.info, .watcher, "container " ++ name ++ " excluded", fields, none⟩)
    (filter : NameFilter) (sighting : Sighting) : (notice? filter sighting).All property := by
  refine .bind nofun fun name _ => .bind (groupOf_all ungrouped _ _) fun group _ =>
    .bind nofun fun verdict _ => ?_
  split
  · exact nofun
  · exact .bind (Report.all_write (leftOut _ _)) fun _ _ => nofun

/-- What is written while a message is told: the message, if it is about a container that started or
    stopped, and what its sighting takes. -/
theorem noticeOfMessage_all
    (seen : ∀ message, property (.plain .debug .watcher ("api event " ++ message)))
    (ungrouped : ∀ image, property (.plain .debug .identity ("no group for " ++ image)))
    (leftOut : ∀ name fields,
      property ⟨.info, .watcher, "container " ++ name ++ " excluded", fields, none⟩)
    (filter : NameFilter) (message : Message) : (noticeOfMessage filter message).All property := by
  refine .bind ?_ fun sighting _ => ?_
  · unfold ofMessage
    split
    · refine .bind nofun fun change _ => ?_
      cases change with
      | none => exact nofun
      | some started => exact .bind (Report.all_note (seen _)) fun _ _ => .bind nofun fun _ _ => nofun
    · exact nofun
  · cases sighting with
    | none => exact nofun
    | some sighting => exact notice?_all ungrouped leftOut filter sighting

end Written

/-- The notice of a message is what the message tells. -/
theorem noticeOfMessage_eq_ok_iff (filter : NameFilter) (message : Message) (told : Option Notice) :
    (noticeOfMessage filter message).outcome = .ok told ↔ MessageTells filter message told := by
  simp only [noticeOfMessage, Report.bind_outcome_eq_ok]
  constructor
  · rintro ⟨seen, found, ended⟩
    rcases (ofMessage_eq_ok_iff message seen).mp found with
      ⟨other, rfl⟩ | ⟨about, unchanged, rfl⟩ | ⟨started, instant, about, changed, dated, rfl⟩
    · cases ended
      exact .otherObject other
    · cases ended
      exact .otherState about unchanged
    · exact .transition about changed dated ((notice?_eq_ok_iff filter _ told).mp ended)
  · intro tells
    cases tells with
    | otherObject other =>
        exact ⟨none, (ofMessage_eq_ok_iff message none).mpr (.inl ⟨other, rfl⟩), rfl⟩
    | otherState about unchanged =>
        exact ⟨none, (ofMessage_eq_ok_iff message none).mpr (.inr (.inl ⟨about, unchanged, rfl⟩)), rfl⟩
    | transition about changed dated tells =>
        refine ⟨_, (ofMessage_eq_ok_iff message _).mpr
          (.inr (.inr ⟨_, _, about, changed, dated, rfl⟩)), ?_⟩
        exact (notice?_eq_ok_iff filter _ told).mpr tells

theorem noticeOfPayload_eq_ok_iff (filter : NameFilter) (payload : Value) (told : Option Notice) :
    noticeOfPayload filter payload = .ok told ↔ PayloadTells filter payload told := by
  unfold noticeOfPayload PayloadTells
  cases decoded : Message.decode payload with
  | error error => simp
  | ok message => simpa using noticeOfMessage_eq_ok_iff filter message told

/-! ## Several payloads -/

section Feed

variable {filter : NameFilter} {payload : Value} {told : Option Notice} {fault : Fault}
  {before after : List Value}

theorem allTold_nil : AllTold filter [] := nofun

theorem allTold_snoc (all : AllTold filter before)
    (tells : noticeOfPayload filter payload = .ok told) : AllTold filter (before ++ [payload]) := by
  intro other member
  rcases List.mem_append.mp member with member | member
  · exact all other member
  · obtain rfl := List.mem_singleton.mp member
    exact ⟨told, tells⟩

/-- Payloads of which none ends in a fault give their notices, and then the others give theirs. -/
theorem noticesOfFeed_append (all : AllTold filter before) :
    noticesOfFeed filter (before ++ after)
      = noticesOfFeed filter before ++ noticesOfFeed filter after := by
  induction before with
  | nil => rfl
  | cons payload before ih =>
      obtain ⟨told, tells⟩ := all payload List.mem_cons_self
      simp only [List.cons_append, noticesOfFeed, tells, List.append_assoc]
      rw [ih fun other member => all other (List.mem_cons_of_mem payload member)]

theorem noticesOfFeed_snoc (all : AllTold filter before)
    (tells : noticeOfPayload filter payload = .ok told) :
    noticesOfFeed filter (before ++ [payload]) = noticesOfFeed filter before ++ told.toList := by
  simp [noticesOfFeed_append all, noticesOfFeed, tells]

theorem noticesOfFeed_snoc_of_error (all : AllTold filter before)
    (ends : noticeOfPayload filter payload = .error fault) :
    noticesOfFeed filter (before ++ [payload]) = noticesOfFeed filter before := by
  simp [noticesOfFeed_append all, noticesOfFeed, ends]

end Feed

/-- The notices of a feed are what its payloads tell. -/
theorem feedTells_noticesOfFeed (filter : NameFilter) (payloads : List Value) :
    FeedTells filter payloads (noticesOfFeed filter payloads) := by
  induction payloads with
  | nil => exact ⟨[], [], [], rfl, .nil, rfl, nofun⟩
  | cons payload payloads ih =>
      cases tells : noticeOfPayload filter payload with
      | error fault =>
          refine ⟨[], payload :: payloads, [], rfl, .nil, ?_, ?_⟩
          · simp [noticesOfFeed, tells]
          · rintro other ⟨⟩ told found
            rw [(noticeOfPayload_eq_ok_iff filter payload told).mpr found] at tells
            cases tells
      | ok told =>
          obtain ⟨sound, rest, tolds, cut, all, eq, ends⟩ := ih
          have first := (noticeOfPayload_eq_ok_iff filter payload told).mp tells
          refine ⟨payload :: sound, rest, told :: tolds, ?_, .cons first all, ?_, ends⟩
          · rw [cut, List.cons_append]
          · simp only [noticesOfFeed, tells, eq]
            cases told with
            | none => rfl
            | some notice => rfl

end ContainerWatch.Sighting
