import ContainerWatch.Engine.Container
import ContainerWatch.Engine.Message
import ContainerWatch.Identity
import ContainerWatch.NameFilter
import ContainerWatch.Notice

/-!
# Sightings

What is seen of a container, be it in the listing of running containers or in a message of the event
feed.  Both are told to the readers in one way: the container's logical name and its group are found
out, and unless the filter leaves that name out the sighting becomes a notice.
-/

namespace ContainerWatch

open Journal

/-- A container that was seen to start or to stop. -/
structure Sighting where
  containerId : Value
  labels : Entries
  rawName : Value
  image : Value
  started : Bool
  instant : Instant

namespace Sighting

def startStates : List String := ["start", "restart"]

def stopStates : List String := ["die", "destroy", "stop", "pause"]

/-- Whether a state means that a container has started or has stopped, or neither.  A state has to be
    something that could be looked up. -/
def startedIn (state : Value) : Except Fault (Option Bool) :=
  match state.unhashable?, state with
  | some kindName, _ => .error (.unhashable kindName)
  | none, .text s =>
      .ok (if startStates.contains s then some true
        else if stopStates.contains s then some false
        else none)
  | none, _ => .ok none

/-- The sighting of a running container: it started when it was created. -/
def ofContainer (container : Engine.Container) : Except Fault Sighting :=
  match container.instant with
  | .error fault => .error fault
  | .ok instant =>
      .ok {
        containerId := container.id
        labels := container.labels
        rawName := container.name
        image := container.image
        started := true
        instant := instant }

/-- The sighting of a container that a message reports to have started or stopped. -/
def ofTransition (message : Engine.Message) (started : Bool) : Except Fault Sighting :=
  match message.instant with
  | .error fault => .error fault
  | .ok instant =>
      .ok {
        containerId := message.actorId
        labels := message.attributes
        rawName := message.name
        image := message.image
        started := started
        instant := instant }

/-- Whether a message is about a container. -/
def isAboutContainer (message : Engine.Message) : Bool :=
  match message.objectType with
  | .text s => s == "container"
  | _ => false

/-- The sighting that a message reports, none unless it says that a container started or stopped. -/
def ofMessage (message : Engine.Message) : Report (Option Sighting) :=
  if isAboutContainer message then do
    match ← Report.ofOutcome (startedIn message.status) with
    | none => return none
    | some started => do
        Report.note .debug .watcher ("api event " ++ message.quoted)
        return some (← Report.ofOutcome (ofTransition message started))
  else
    return none

/-- The notice of a sighting, none if the filter leaves the container out, which is noted. -/
def notice? (filter : NameFilter) (sighting : Sighting) : Report (Option Notice) := do
  let name ← Report.ofOutcome (Identity.nameOf sighting.labels sighting.rawName)
  let group ← Identity.groupOf sighting.labels sighting.image
  let verdict ← Report.ofOutcome (filter.decide name)
  if verdict.allowed then
    return some ⟨sighting.containerId, name, group, sighting.instant, .bool sighting.started⟩
  else do
    Report.write ⟨.info, .watcher, "container " ++ name.shown ++ " excluded",
      [("rule", .text verdict.rule.name)], none⟩
    return none

/-- The notice of a running container. -/
def noticeOfContainer (filter : NameFilter) (container : Engine.Container) :
    Report (Option Notice) := do
  notice? filter (← Report.ofOutcome (ofContainer container))

/-- The notice of a message, none if there is nothing to tell. -/
def noticeOfMessage (filter : NameFilter) (message : Engine.Message) : Report (Option Notice) := do
  match ← ofMessage message with
  | none => return none
  | some sighting => notice? filter sighting

end Sighting

end ContainerWatch
