import ContainerWatch.Fault

/-!
# Journal entries

What the parts of the program write into its journal: an entry has a level, the part that wrote it,
a message, fields of its own, and the fault it reports on if there is one.
-/

namespace ContainerWatch.Journal

/-- The weight of an entry. -/
inductive Level where
  | debug
  | info
  | warning
  | error
  | critical
  deriving DecidableEq, Repr

namespace Level

/-- The number of a level; a heavier one has a greater number. -/
def number : Level → Int
  | debug => 10
  | info => 20
  | warning => 30
  | error => 40
  | critical => 50

/-- The name of a level. -/
def name : Level → String
  | debug => "DEBUG"
  | info => "INFO"
  | warning => "WARNING"
  | error => "ERROR"
  | critical => "CRITICAL"

end Level

/-- The parts of the program that write entries. -/
inductive Part where
  | identity
  | engine
  | watcher
  | command
  deriving DecidableEq, Repr

namespace Part

/-- The last component of the name under which a part writes. -/
def shortName : Part → String
  | identity => "naming"
  | engine => "docker_collector"
  | watcher => "notifier"
  | command => "main"

/-- The name under which a part writes. -/
def name : Part → String
  | command => "dockwatch." ++ command.shortName
  | part => "dockwatch.events." ++ part.shortName

end Part

/-- An entry of the journal. -/
structure Entry where
  level : Level
  part : Part
  message : String
  fields : List (String × Value)
  fault : Option Fault

namespace Entry

def plain (level : Level) (part : Part) (message : String) : Entry := ⟨level, part, message, [], none⟩

end Entry

end ContainerWatch.Journal
