import ContainerWatch.NameFilter
import ContainerWatch.Proofs.Reports

/-!
# Settings of a filter

Settings that consist of texts make a filter unless one of their patterns cannot be compiled, and each
part of the filter is made of its own part of the settings.
-/

namespace ContainerWatch.NameFilter

/-- A setting is a pattern that cannot be compiled.  The empty text is none. -/
def DoesNotCompile (setting : Value) : Prop :=
  ∃ source error, setting = .text source ∧ source ≠ "" ∧ Pattern.compile source = .error error

theorem not_doesNotCompile_empty : ¬DoesNotCompile (.text "") := by
  rintro ⟨source, error, same, filled, -⟩
  cases same
  exact filled rfl

theorem not_doesNotCompile_of_compile {source : String} {pattern : Pattern}
    (compiled : Pattern.compile source = .ok pattern) : ¬DoesNotCompile (.text source) := by
  rintro ⟨other, error, same, -, rejected⟩
  cases same
  cases compiled.symm.trans rejected

/-- Settings that consist of texts, as they are declared. -/
structure Textual (settings : FilterSettings) : Prop where
  excludes : ∀ name ∈ settings.excludes, ∃ s, name = .text s
  includes : ∀ name ∈ settings.includes, ∃ s, name = .text s
  includesPattern : ∃ source, settings.includesPattern = .text source
  excludesPattern : ∃ source, settings.excludesPattern = .text source

theorem mapM_asKey {names : List Value} (textual : ∀ name ∈ names, ∃ s, name = .text s) :
    names.mapM Fault.asKey = .ok names := by
  induction names with
  | nil => rfl
  | cons name names ih =>
      obtain ⟨s, rfl⟩ := textual name List.mem_cons_self
      rw [List.mapM_cons, ih fun other member => textual other (List.mem_cons_of_mem _ member)]
      rfl

theorem exists_namesOf {names : List Value} (textual : ∀ name ∈ names, ∃ s, name = .text s) :
    ∃ listed, namesOf names = .ok listed := by
  rw [namesOf, mapM_asKey textual]
  exact ⟨_, rfl⟩

theorem compileSetting_of_doesNotCompile {setting : Value} (flawed : DoesNotCompile setting)
    (rule : Rule) : ∃ fault, compileSetting rule setting = .error fault := by
  obtain ⟨source, error, rfl, filled, rejected⟩ := flawed
  have truthy : (Value.text source).isTruthy = true := by simpa [Value.isTruthy] using filled
  rw [compileSetting, if_pos truthy]
  simp only [compileText, rejected]
  split <;> exact ⟨_, rfl⟩

theorem exists_compileSetting {setting : Value} (textual : ∃ source, setting = .text source)
    (sound : ¬ DoesNotCompile setting) (rule : Rule) :
    ∃ pattern, compileSetting rule setting = .ok pattern := by
  obtain ⟨source, rfl⟩ := textual
  by_cases truthy : (Value.text source).isTruthy = true
  · rw [compileSetting, if_pos truthy]
    cases compiled : Pattern.compile source with
    | ok pattern =>
        simp only [compileText, compiled]
        exact ⟨_, rfl⟩
    | error error =>
        have filled : source ≠ "" := by simpa [Value.isTruthy] using truthy
        exact absurd ⟨source, error, rfl, filled, compiled⟩ sound
  · rw [compileSetting, if_neg truthy]
    exact ⟨_, rfl⟩

/-- The parts of a filter are made of those of its settings. -/
structure MadeOf (filter : NameFilter) (settings : FilterSettings) : Prop where
  excludes : namesOf settings.excludes = .ok filter.excludes
  includes : namesOf settings.includes = .ok filter.includes
  includesPattern :
    compileSetting .includesPattern settings.includesPattern = .ok filter.includesPattern
  excludesPattern :
    compileSetting .excludesPattern settings.excludesPattern = .ok filter.excludesPattern

/-- Settings make a filter whose parts are made of theirs. -/
theorem madeOf_of_ofSettings {settings : FilterSettings} {filter : NameFilter}
    (made : ofSettings settings = .ok filter) : MadeOf filter settings := by
  obtain ⟨excludes, listed, made⟩ := exists_of_bind_eq_ok made
  obtain ⟨includes, listed', made⟩ := exists_of_bind_eq_ok made
  obtain ⟨included, compiled, made⟩ := exists_of_bind_eq_ok made
  obtain ⟨excluded, compiled', made⟩ := exists_of_bind_eq_ok made
  obtain rfl : ⟨excludes, includes, included, excluded⟩ = filter := Except.ok.inj made
  exact ⟨listed, listed', compiled, compiled'⟩

theorem ofSettings_of_doesNotCompile {settings : FilterSettings}
    (flawed : DoesNotCompile settings.includesPattern ∨ DoesNotCompile settings.excludesPattern)
    (filter : NameFilter) : ofSettings settings ≠ .ok filter := by
  intro made
  have parts := madeOf_of_ofSettings made
  rcases flawed with flawed | flawed
  · obtain ⟨fault, failed⟩ := compileSetting_of_doesNotCompile flawed .includesPattern
    cases failed.symm.trans parts.includesPattern
  · obtain ⟨fault, failed⟩ := compileSetting_of_doesNotCompile flawed .excludesPattern
    cases failed.symm.trans parts.excludesPattern

/-- Settings of texts make a filter, unless a pattern cannot be compiled. -/
theorem exists_ofSettings {settings : FilterSettings} (textual : Textual settings)
    (included : ¬ DoesNotCompile settings.includesPattern)
    (excluded : ¬ DoesNotCompile settings.excludesPattern) :
    ∃ filter, ofSettings settings = .ok filter := by
  obtain ⟨excludes, listed⟩ := exists_namesOf textual.excludes
  obtain ⟨includes, listed'⟩ := exists_namesOf textual.includes
  obtain ⟨pattern, compiled⟩ :=
    exists_compileSetting textual.includesPattern included .includesPattern
  obtain ⟨pattern', compiled'⟩ :=
    exists_compileSetting textual.excludesPattern excluded .excludesPattern
  rw [ofSettings, listed, listed', compiled, compiled']
  exact ⟨_, rfl⟩

end ContainerWatch.NameFilter
