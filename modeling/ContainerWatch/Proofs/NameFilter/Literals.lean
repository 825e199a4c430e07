import ContainerWatch.Proofs.NameFilter.Precedence

/-!
# Literal patterns

A filter whose pattern is a literal text searches names for that text and does nothing else.  Between
a caret and a dollar sign the text is the only name that it finds, but for a line feed at the end.
-/

namespace ContainerWatch.NameFilter

open Pattern (IsLiteral)

/-- What a pattern does to names: as the pattern of names to watch it admits the names that pass a
    test, and as the pattern of names to leave out it denies them, whatever else is set. -/
structure Tests (source : String) (test : String → Bool) : Prop where
  includesPattern : ∀ texts : TextSettings, texts.includesPattern = source →
    ¬DoesNotCompile (.text texts.excludesPattern) →
    ∃ filter, ofSettings texts.settings = .ok filter ∧
      ∀ name, filter.decide (.text name) = .ok ⟨test name, .includesPattern⟩
  excludesPattern : ∀ texts : TextSettings, texts.includesPattern = "" →
    texts.excludesPattern = source →
    ∃ filter, ofSettings texts.settings = .ok filter ∧
      ∀ name, filter.decide (.text name) = .ok ⟨!test name, .excludesPattern⟩

/-- A pattern that can be compiled tests names by its occurrences in them. -/
theorem tests_of_compile {source : String} {pattern : Pattern} {test : String → Bool}
    (filled : source ≠ "") (compiled : Pattern.compile source = .ok pattern)
    (occurs : ∀ name, pattern.occursIn name = .ok (test name)) : Tests source test := by
  have searched (name : String) : search source name = .ok (test name) := by
    simp only [search, compiled, occurs]
  have sound := not_doesNotCompile_of_compile compiled
  constructor
  · rintro texts rfl usable
    obtain ⟨filter, made⟩ := exists_ofTexts ⟨sound, usable⟩
    refine ⟨filter, made, fun name => ?_⟩
    rw [decide_of_ofSettings made, TextSettings.decision_of_includesPattern filled, searched]
    rfl
  · rintro texts absent rfl
    have usable : texts.Usable := ⟨absent ▸ not_doesNotCompile_empty, sound⟩
    obtain ⟨filter, made⟩ := exists_ofTexts usable
    refine ⟨filter, made, fun name => ?_⟩
    rw [decide_of_ofSettings made, TextSettings.decision_of_excludesPattern absent filled, searched]
    rfl

/-- A literal text that is set as a pattern is searched for as it is: a name passes if the text is a
    part of it.  Between a caret and a dollar sign it passes if it is the text, or the text with a line
    feed behind it. -/
theorem literal_patterns_are_searched_for {text : String} (literal : IsLiteral text) :
    Tests text (fun name => Decidable.decide (text.toList <:+: name.toList)) ∧
      Tests ("^" ++ text ++ "$") fun name =>
        Decidable.decide (name = text ∨ name = text ++ "\n") := by
  obtain ⟨pattern, compiled, occurs⟩ := literal.exists_compile
  obtain ⟨pattern', compiled', occurs'⟩ := literal.exists_compile_line
  constructor
  · exact tests_of_compile literal.ne_empty compiled occurs
  · refine tests_of_compile (fun empty => ?_) compiled' occurs'
    have letters := congrArg String.toList empty
    simp at letters

/-- A text without special characters is searched for, and with anchors it is compared. -/
theorem literal_patterns_are_searched_for_of_example :
    IsLiteral "web" ∧
    (∃ filter, ofSettings watchWeb.settings = .ok filter ∧
      filter.decide (.text "my-web-2") = .ok ⟨true, .includesPattern⟩ ∧
      filter.decide (.text "db") = .ok ⟨false, .includesPattern⟩) ∧
    ∃ filter, ofSettings (TextSettings.settings { excludesPattern := "^web$" }) = .ok filter ∧
      filter.decide (.text "web\n") = .ok ⟨false, .excludesPattern⟩ ∧
      filter.decide (.text "my-web-2") = .ok ⟨true, .excludesPattern⟩ := by
  obtain ⟨searched, compared⟩ := literal_patterns_are_searched_for isLiteral_web
  obtain ⟨filter, made, decides⟩ := searched.includesPattern watchWeb rfl not_doesNotCompile_empty
  obtain ⟨filter', made', decides'⟩ :=
    compared.excludesPattern { excludesPattern := "^web$" } rfl (by decide)
  refine ⟨isLiteral_web, ⟨filter, made, ?_, ?_⟩, filter', made', ?_, ?_⟩
  · rw [decides, decide_eq_true (by decide)]
  · rw [decides, decide_eq_false (by decide)]
  · rw [decides', decide_eq_true (by decide)]
    rfl
  · rw [decides', decide_eq_false (by decide)]
    rfl

end ContainerWatch.NameFilter
