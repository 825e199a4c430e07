import ContainerWatch.Journal.Entry

/-!
# Reports

A computation that writes journal entries and ends with a value or in a fault.  The entries written
before the fault remain.
-/

namespace ContainerWatch.Journal

/-- The entries that a computation writes, and how it ends. -/
structure Report (α : Type) where
  entries : List Entry
  outcome : Except Fault α

namespace Report

variable {α β : Type}

/-- Go on with the value of a report, behind its entries. -/
def bind (report : Report α) (next : α → Report β) : Report β :=
  match report.outcome with
  | .error fault => ⟨report.entries, .error fault⟩
  | .ok value => ⟨report.entries ++ (next value).entries, (next value).outcome⟩

instance : Monad Report where
  pure value := ⟨[], .ok value⟩
  bind := bind

def fail (fault : Fault) : Report α := ⟨[], .error fault⟩

def ofOutcome (outcome : Except Fault α) : Report α := ⟨[], outcome⟩

def write (entry : Entry) : Report Unit := ⟨[entry], .ok ()⟩

/-- The report that writes an entry without fields. -/
def note (level : Level) (part : Part) (message : String) : Report Unit :=
  write (.plain level part message)

@[simp] theorem pure_entries (value : α) : (pure value : Report α).entries = [] := rfl

@[simp] theorem pure_outcome (value : α) : (pure value : Report α).outcome = .ok value := rfl

end Report

end ContainerWatch.Journal
