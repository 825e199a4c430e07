import ContainerWatch.Proofs.NameFilter.Precedence
import ContainerWatch.Proofs.Pattern.Rejections

/-!
# Settings with a rejected pattern

Where a pattern is rejected, no filter is made.  A pattern that is rejected for its form ends the making
in the fault of a setting, which holds the name of the setting and the pattern; any other rejection is
passed on as it is.  If both patterns are rejected it is that of names to watch that counts.
-/

namespace ContainerWatch

/-- A rejection for the form of a pattern is the fault of a pattern. -/
theorem Pattern.Cause.kind_of_isMalformed {cause : Pattern.Cause} (malformed : cause.isMalformed = true) :
    cause.kind = .pattern := by
  cases cause <;> first | rfl | cases malformed

/-- Any other rejection is a number that does not fit, a value out of range, or a fault of the running
    program. -/
theorem Pattern.Cause.kind_of_not_isMalformed {cause : Pattern.Cause}
    (other : cause.isMalformed = false) :
    cause.kind = .overflow ∨ cause.kind = .value ∨ cause.kind = .runtime := by
  cases cause <;> simp [isMalformed, kind] at other ⊢

namespace NameFilter

/-- The first pattern of some settings that is rejected, with its rule and the rejection.  The pattern
    of names to leave out is looked at only if nothing is wrong with that of names to watch. -/
inductive Rejects (texts : TextSettings) : Rule → String → Pattern.Error → Prop
  | includesPattern {error : Pattern.Error}
      (rejected : Pattern.compile texts.includesPattern = .error error) :
      Rejects texts .includesPattern texts.includesPattern error
  | excludesPattern {error : Pattern.Error} (sound : ¬DoesNotCompile (.text texts.includesPattern))
      (rejected : Pattern.compile texts.excludesPattern = .error error) :
      Rejects texts .excludesPattern texts.excludesPattern error

/-- The fault of a setting whose pattern is rejected for its form. -/
def malformedSetting (rule : Rule) (source : String) (error : Pattern.Error) : Fault :=
  .setting (.text rule.name)
    (.text ("failed to compile " ++ Text.quoted source ++ ": " ++ (error.fault source).text))
    (.text source) (some (error.fault source))

/-- The fault in which the making of a filter ends where a pattern is rejected. -/
def rejectionFault (rule : Rule) (source : String) (error : Pattern.Error) : Fault :=
  if error.cause.isMalformed then malformedSetting rule source error else error.fault source

variable {texts : TextSettings} {rule : Rule} {source : String} {error : Pattern.Error}

theorem ne_empty_of_compile (rejected : Pattern.compile source = .error error) : source ≠ "" := by
  rintro rfl
  obtain ⟨pattern, compiled⟩ : ∃ pattern, Pattern.compile "" = .ok pattern := ⟨_, rfl⟩
  cases compiled.symm.trans rejected

theorem doesNotCompile_of_compile (rejected : Pattern.compile source = .error error) :
    DoesNotCompile (.text source) :=
  ⟨source, error, rfl, ne_empty_of_compile rejected, rejected⟩

theorem compileSetting_of_compile (rejected : Pattern.compile source = .error error) (rule : Rule) :
    compileSetting rule (.text source) = .error (rejectionFault rule source error) := by
  have truthy : (Value.text source).isTruthy = true := by
    simpa [Value.isTruthy] using ne_empty_of_compile rejected
  rw [compileSetting, if_pos truthy]
  simp only [compileText, rejected, rejectionFault]
  split <;> rfl

/-- Settings that cannot be used have a first pattern that is rejected. -/
theorem exists_rejects_iff : (∃ rule source error, Rejects texts rule source error) ↔ ¬texts.Usable := by
  constructor
  · rintro ⟨rule, source, error, rejects⟩ usable
    cases rejects with
    | includesPattern rejected =>
        exact usable.includesPattern (doesNotCompile_of_compile rejected)
    | excludesPattern sound rejected =>
        exact usable.excludesPattern (doesNotCompile_of_compile rejected)
  · intro unusable
    by_cases sound : DoesNotCompile (.text texts.includesPattern)
    · obtain ⟨_, error, same, -, rejected⟩ := sound
      cases same
      exact ⟨_, _, error, .includesPattern rejected⟩
    · by_cases sound' : DoesNotCompile (.text texts.excludesPattern)
      · obtain ⟨_, error, same, -, rejected⟩ := sound'
        cases same
        exact ⟨_, _, error, .excludesPattern sound rejected⟩
      · exact absurd ⟨sound, sound'⟩ unusable

theorem ofSettings_of_rejects (rejects : Rejects texts rule source error) :
    ofSettings texts.settings = .error (rejectionFault rule source error) := by
  obtain ⟨excludes, listed⟩ : ∃ listed, namesOf texts.settings.excludes = .ok listed :=
    exists_namesOf exists_text_of_mem
  obtain ⟨includes, listed'⟩ : ∃ listed, namesOf texts.settings.includes = .ok listed :=
    exists_namesOf exists_text_of_mem
  rw [ofSettings, listed, listed']
  cases rejects with
  | includesPattern rejected =>
      have failed := compileSetting_of_compile rejected .includesPattern
      simp only [TextSettings.settings, failed]
      rfl
  | excludesPattern sound rejected =>
      obtain ⟨pattern, compiled⟩ :=
        exists_compileSetting ⟨texts.includesPattern, rfl⟩ sound .includesPattern
      have failed := compileSetting_of_compile rejected .excludesPattern
      simp only [TextSettings.settings, compiled, failed]
      rfl

end NameFilter

end ContainerWatch
