import ContainerWatch.Engine.Payload

/-!
# Running containers

A running container as the engine's listing describes it.  Only the documented keys are read; what
is missing or counts as nothing is empty.
-/

namespace ContainerWatch.Engine

/-- A running container. -/
structure Container where
  id : Value
  names : List Value
  labels : Entries
  image : Value
  /-- When it was created, in seconds. -/
  created : Int

namespace Container

def decode (entry : Value) : Except PayloadError Container := do
  let entries ← lookupEntries entry
  let names ← itemsOf ((entries.getNull "Names").orElse (.tuple []))
  let labels ← entriesOf ((entries.getNull "Labels").orElse (.dict []))
  let created ← integerUnder entries "Created"
  return {
    id := (entries.getNull "Id").orElse (.text "")
    names := names
    labels := labels
    image := (entries.getNull "Image").orElse (.text "")
    created := created }

/-- The first name, with the slash that the engine puts in front of it. -/
def name (container : Container) : Value := container.names.headD (.text "")

/-- When the container was created. -/
def instant (container : Container) : Except Fault Instant :=
  instantOutcome (Instant.ofSeconds container.created)

end Container

end ContainerWatch.Engine
