import ContainerWatch.Fault
import ContainerWatch.Instant

/-!
# Notices

What the program tells its readers: that a container was started or stopped, at which instant, under
which logical name and in which group.
-/

namespace ContainerWatch

/-- A container was started or stopped. -/
structure Notice where
  containerId : Value
  name : Value
  group : Value
  instant : Instant
  /-- Whether the container was started, or what is said instead. -/
  status : Value
  deriving Inhabited

namespace Notice

/-- The fields of a notice by name, with the instant in its standard text. -/
def fields (notice : Notice) : List (String × Value) :=
  [("container_id", notice.containerId), ("container_name", notice.name), ("group", notice.group),
    ("ts", .text notice.instant.iso), ("status", notice.status)]

/-- The fields of a notice as a dictionary. -/
def toValue (notice : Notice) : Value :=
  .dict (notice.fields.map fun (name, value) => (.text name, value))

/-- The form of a notice in messages. -/
def quoted (notice : Notice) : String :=
  "Event(container_id=" ++ notice.containerId.quoted
    ++ ", container_name=" ++ notice.name.quoted
    ++ ", group=" ++ notice.group.quoted
    ++ ", ts=" ++ notice.instant.quoted
    ++ ", status=" ++ notice.status.quoted ++ ")"

/-- A notice as a value of a foreign kind. -/
def toForeign (notice : Notice) : Value :=
  .foreign ⟨"Event", notice.quoted, notice.quoted, true, none⟩

/-- The fault of changing a part of a notice: a notice is fixed once it is made. -/
def assignFault (part : String) : Fault :=
  .ofMessage .frozen ("cannot assign to field " ++ Text.quoted part)

/-- Whether two notices say the same. -/
def same (a b : Notice) : Bool :=
  a.containerId.same b.containerId && a.name.same b.name && a.group.same b.group
    && a.instant == b.instant && a.status.same b.status

end Notice

end ContainerWatch
