import ContainerWatch.Engine.Payload

/-!
# Feed messages

A message of the engine's event feed.  Newer engines leave out the keys `status`, `id` and `from`,
each of which has an equivalent inside the message.
-/

namespace ContainerWatch.Engine

/-- A message of the event feed. -/
structure Message where
  objectType : Value
  status : Value
  actorId : Value
  attributes : Entries
  image : Value
  /-- When it happened, in seconds. -/
  time : Int
  /-- When it happened, in nanoseconds. -/
  timeNano : Int

namespace Message

def decode (payload : Value) : Except PayloadError Message := do
  let entries ← lookupEntries payload
  let actor ← lookupEntries ((entries.getNull "Actor").orElse (.dict []))
  let attributes ← entriesOf ((actor.getNull "Attributes").orElse (.dict []))
  let time ← integerUnder entries "time"
  let timeNano ← integerUnder entries "timeNano"
  return {
    objectType := (entries.getNull "Type").orElse (.text "")
    status := (entries.getNull "status").orElse ((entries.getNull "Action").orElse (.text ""))
    actorId := (actor.getNull "ID").orElse ((entries.getNull "id").orElse (.text ""))
    attributes := attributes
    image := (entries.getNull "from").orElse ((attributes.get? "image").getD (.text ""))
    time := time
    timeNano := timeNano }

def name (message : Message) : Value := (message.attributes.get? "name").getD (.text "")

/-- When it happened: the nanoseconds if there are any, and otherwise the seconds. -/
def instant (message : Message) : Except Fault Instant :=
  instantOutcome
    (if message.timeNano ≠ 0 then Instant.ofNanoseconds message.timeNano
      else Instant.ofSeconds message.time)

/-- The form of a message in the journal. -/
def quoted (message : Message) : String :=
  "RawEvent(object_type=" ++ message.objectType.quoted
    ++ ", status=" ++ message.status.quoted
    ++ ", actor_id=" ++ message.actorId.quoted
    ++ ", attributes=" ++ (Value.dict message.attributes).quoted
    ++ ", image=" ++ message.image.quoted
    ++ ", time=" ++ (Value.int message.time).quoted
    ++ ", time_nano=" ++ (Value.int message.timeNano).quoted ++ ")"

end Message

end ContainerWatch.Engine
