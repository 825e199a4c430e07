import ContainerWatch.Journal.Report

/-!
# How reports end

The outcome of a report does not depend on the entries that are written on the way.  A sequence of
reports ends with a value exactly if each of them does, which takes a computation apart into its
steps, as it does without a report.  What holds of all entries that the steps write holds of all
entries of the computation.
-/

namespace ContainerWatch

variable {α β : Type}

theorem exists_of_bind_eq_ok {ε : Type} {outcome : Except ε α} {next : α → Except ε β} {result : β}
    (ended : outcome >>= next = .ok result) :
    ∃ value, outcome = .ok value ∧ next value = .ok result := by
  cases outcome with
  | error error => cases ended
  | ok value => exact ⟨value, rfl, ended⟩

namespace Journal.Report

@[simp] theorem ofOutcome_outcome (outcome : Except Fault α) :
    (ofOutcome outcome).outcome = outcome := rfl

@[simp] theorem write_outcome (entry : Entry) : (write entry).outcome = .ok () := rfl

@[simp] theorem note_outcome (level : Level) (part : Part) (message : String) :
    (note level part message).outcome = .ok () := rfl

@[simp] theorem fail_outcome (fault : Fault) : (fail fault : Report α).outcome = .error fault := rfl

theorem bind_outcome (report : Report α) (next : α → Report β) :
    (report >>= next).outcome = report.outcome >>= fun value => (next value).outcome := by
  change (bind report next).outcome = _
  unfold bind
  cases report.outcome <;> rfl

@[simp] theorem bind_outcome_eq_ok (report : Report α) (next : α → Report β) (value : β) :
    (report >>= next).outcome = .ok value ↔
      ∃ middle, report.outcome = .ok middle ∧ (next middle).outcome = .ok value := by
  change (bind report next).outcome = .ok value ↔ _
  unfold bind
  cases ended : report.outcome with
  | error fault => simp
  | ok middle => simp

theorem bind_of_error {report : Report α} {fault : Fault} (ended : report.outcome = .error fault)
    (next : α → Report β) : report >>= next = ⟨report.entries, .error fault⟩ := by
  change bind report next = _
  simp only [bind, ended]

theorem bind_of_ok {report : Report α} {value : α} (ended : report.outcome = .ok value)
    (next : α → Report β) :
    report >>= next = ⟨report.entries ++ (next value).entries, (next value).outcome⟩ := by
  change bind report next = _
  simp only [bind, ended]

@[simp] theorem ofOutcome_entries (outcome : Except Fault α) : (ofOutcome outcome).entries = [] := rfl

@[simp] theorem write_entries (entry : Entry) : (write entry).entries = [entry] := rfl

@[simp] theorem note_entries (level : Level) (part : Part) (message : String) :
    (note level part message).entries = [.plain level part message] := rfl

@[simp] theorem fail_entries (fault : Fault) : (fail fault : Report α).entries = [] := rfl

/-- Every entry of a report has a property. -/
def All (property : Entry → Prop) (report : Report α) : Prop :=
  ∀ entry ∈ report.entries, property entry

/-- A report followed by another writes nothing that neither of them writes. -/
theorem All.bind {property : Entry → Prop} {report : Report α} {next : α → Report β}
    (first : report.All property)
    (rest : ∀ value, report.outcome = .ok value → (next value).All property) :
    (report >>= next).All property := by
  change (Report.bind report next).All property
  unfold Report.bind
  cases ended : report.outcome with
  | error fault => exact first
  | ok value =>
      intro entry member
      rcases List.mem_append.mp member with member | member
      · exact first entry member
      · exact rest value ended entry member

theorem all_write {property : Entry → Prop} {entry : Entry} (holds : property entry) :
    (write entry).All property := by
  intro other member
  rwa [List.mem_singleton.mp member]

theorem all_note {property : Entry → Prop} {level : Level} {part : Part} {message : String}
    (holds : property (.plain level part message)) : (note level part message).All property :=
  all_write holds

/-- The second report ends as the first does, and has more entries. -/
structure Extends (report longer : Report α) : Prop where
  outcome : longer.outcome = report.outcome
  entries : report.entries.Sublist longer.entries

theorem Extends.refl (report : Report α) : Extends report report := ⟨rfl, .refl _⟩

/-- More entries in two reports of which one follows the other. -/
theorem Extends.bind {report longer : Report α} {next further : α → Report β}
    (first : Extends report longer) (rest : ∀ value, Extends (next value) (further value)) :
    Extends (report >>= next) (longer >>= further) := by
  cases ended : report.outcome with
  | error fault =>
      rw [bind_of_error ended, bind_of_error (first.outcome.trans ended)]
      exact ⟨rfl, first.entries⟩
  | ok value =>
      rw [bind_of_ok ended, bind_of_ok (first.outcome.trans ended)]
      exact ⟨(rest value).outcome, first.entries.append (rest value).entries⟩

end Journal.Report

end ContainerWatch
