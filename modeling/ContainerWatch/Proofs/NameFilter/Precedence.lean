import ContainerWatch.Proofs.Entries
import ContainerWatch.Proofs.NameFilter.Settings
import ContainerWatch.Proofs.Pattern.Literals

/-!
# Which rule decides

A filter that is made of texts decides on a name by the first setting that says anything: the pattern
of names to watch, the pattern of names to leave out, the list of names to watch, and the list of names
to leave out.  All but the last of them say something on every name, so that what comes behind them is
of no account.
-/

namespace ContainerWatch.NameFilter

/-- Whether a pattern that is written as a text occurs in a name. -/
def search (source name : String) : Except Fault Bool :=
  match Pattern.compile source with
  | .ok pattern => pattern.occursIn name
  | .error error => .error (error.fault source)

/-- Settings of a filter that are texts: two lists of names and two patterns, of which an empty one
    stands for none. -/
structure TextSettings where
  excludes : List String := []
  includes : List String := []
  includesPattern : String := ""
  excludesPattern : String := ""

namespace TextSettings

/-- The settings of a filter. -/
def settings (texts : TextSettings) : FilterSettings where
  excludes := texts.excludes.map .text
  includes := texts.includes.map .text
  includesPattern := .text texts.includesPattern
  excludesPattern := .text texts.excludesPattern

/-- Each of the patterns is empty or can be compiled. -/
structure Usable (texts : TextSettings) : Prop where
  includesPattern : ¬DoesNotCompile (.text texts.includesPattern)
  excludesPattern : ¬DoesNotCompile (.text texts.excludesPattern)

/-- The decision on a name: the first of the settings that says anything decides. -/
def decision (texts : TextSettings) (name : String) : Except Fault Verdict :=
  if texts.includesPattern ≠ "" then
    (search texts.includesPattern name).map fun found => ⟨found, .includesPattern⟩
  else if texts.excludesPattern ≠ "" then
    (search texts.excludesPattern name).map fun found => ⟨!found, .excludesPattern⟩
  else if texts.includes ≠ [] then .ok ⟨texts.includes.contains name, .includes⟩
  else if texts.excludes.contains name then .ok ⟨false, .excludes⟩
  else .ok ⟨true, .default⟩

section Decision

variable {texts other : TextSettings}

theorem decision_of_includesPattern (given : texts.includesPattern ≠ "") (name : String) :
    texts.decision name
      = (search texts.includesPattern name).map fun found => ⟨found, .includesPattern⟩ :=
  if_pos given

/-- A pattern of names to leave out decides on every name if there is none of names to watch. -/
theorem decision_of_excludesPattern (absent : texts.includesPattern = "")
    (given : texts.excludesPattern ≠ "") (name : String) :
    texts.decision name
      = (search texts.excludesPattern name).map fun found => ⟨!found, .excludesPattern⟩ := by
  rw [decision, if_neg (not_not.mpr absent), if_pos given]

/-- Without patterns the lists decide, and that of names to watch on every name. -/
theorem decision_of_lists (absent : texts.includesPattern = "") (absent' : texts.excludesPattern = "")
    (name : String) :
    texts.decision name = .ok
      (if texts.includes ≠ [] then ⟨texts.includes.contains name, .includes⟩
        else if texts.excludes.contains name then ⟨false, .excludes⟩
        else ⟨true, .default⟩) := by
  rw [decision, if_neg (not_not.mpr absent), if_neg (not_not.mpr absent')]
  split_ifs <;> rfl

/-- Two settings that differ only behind the first one that says something on every name, or in the
    order in which names are listed and how often. -/
inductive SameRule (texts other : TextSettings) : Prop
  | includesPattern (given : texts.includesPattern ≠ "")
      (same : other.includesPattern = texts.includesPattern)
  | excludesPattern (given : texts.excludesPattern ≠ "")
      (absent : texts.includesPattern = "" ∧ other.includesPattern = "")
      (same : other.excludesPattern = texts.excludesPattern)
  | includes (given : texts.includes ≠ [])
      (absent : texts.includesPattern = "" ∧ texts.excludesPattern = "")
      (absent' : other.includesPattern = "" ∧ other.excludesPattern = "")
      (same : ∀ name, name ∈ other.includes ↔ name ∈ texts.includes)
  | names (includesPattern : other.includesPattern = texts.includesPattern)
      (excludesPattern : other.excludesPattern = texts.excludesPattern)
      (includes : ∀ name, name ∈ other.includes ↔ name ∈ texts.includes)
      (excludes : ∀ name, name ∈ other.excludes ↔ name ∈ texts.excludes)

/-- The pattern of names to watch of the first settings is the pattern of names to leave out of the
    second ones, and decides in both. -/
structure Turned (texts other : TextSettings) : Prop where
  given : texts.includesPattern ≠ ""
  absent : other.includesPattern = ""
  same : other.excludesPattern = texts.includesPattern

theorem contains_congr {names others : List String}
    (same : ∀ name, name ∈ others ↔ name ∈ names) (name : String) :
    others.contains name = names.contains name := by
  rw [Bool.eq_iff_iff, List.contains_iff_mem, List.contains_iff_mem, same]

theorem eq_nil_congr {names others : List String}
    (same : ∀ name, name ∈ others ↔ name ∈ names) : others = [] ↔ names = [] := by
  simp only [List.eq_nil_iff_forall_not_mem, same]

/-- Settings with the same deciding rule decide alike. -/
theorem SameRule.decision (same : SameRule texts other) (name : String) :
    other.decision name = texts.decision name := by
  cases same with
  | includesPattern given same =>
      rw [decision_of_includesPattern given, decision_of_includesPattern (same ▸ given), same]
  | excludesPattern given absent same =>
      rw [decision_of_excludesPattern absent.1 given,
        decision_of_excludesPattern absent.2 (same ▸ given), same]
  | includes given absent absent' same =>
      have given' : other.includes ≠ [] := mt (eq_nil_congr same).mp given
      rw [decision_of_lists absent.1 absent.2, decision_of_lists absent'.1 absent'.2, if_pos given,
        if_pos given', contains_congr same]
  | names includesPattern excludesPattern includes excludes =>
      simp only [TextSettings.decision, includesPattern, excludesPattern, ne_eq,
        eq_nil_congr includes, contains_congr includes, contains_congr excludes]

end Decision

end TextSettings

/-! ## Lists of names -/

theorem get?_ofPairs_texts (names : List String) (name : String) :
    (Entries.ofPairs (names.map fun name => (.text name, .null))).get? name
      = if name ∈ names then some .null else none := by
  induction names using List.reverseRecOn with
  | nil => rfl
  | append_singleton names last ih =>
      have put : Entries.ofPairs ((names ++ [last]).map fun name => (Value.text name, Value.null))
          = (Entries.ofPairs (names.map fun name => (Value.text name, Value.null))).put (.text last)
              .null := by
        simp [Entries.ofPairs]
      rw [put, Entries.get?_put, ih]
      by_cases here : last = name
      · simp [here]
      · simp [here, Ne.symm here]

theorem any_key (entries : Entries) (name : String) :
    (entries.map (·.1)).any (·.sameKey (.text name)) = (entries.get? name).isSome := by
  induction entries with
  | nil => rfl
  | cons entry entries ih =>
      cases here : entry.1.sameKey (.text name) with
      | true => simp [Entries.get?, here]
      | false => simpa [Entries.get?, here] using ih

theorem exists_text_of_mem {names : List String} :
    ∀ name ∈ names.map Value.text, ∃ s, name = .text s := by
  intro name member
  obtain ⟨s, -, same⟩ := List.mem_map.mp member
  exact ⟨s, same.symm⟩

/-- A list that holds the same names as a list of texts, in whatever order. -/
structure Holds (listed : List Value) (names : List String) : Prop where
  isListed : ∀ name, isListed listed (.text name) = .ok (names.contains name)
  isEmpty : listed.isEmpty = names.isEmpty

theorem holds_of_namesOf {names : List String} {listed : List Value}
    (made : namesOf (names.map .text) = .ok listed) : Holds listed names := by
  rw [namesOf, mapM_asKey exists_text_of_mem] at made
  have keys : (Entries.ofPairs (names.map fun name => (.text name, .null))).map (·.1) = listed := by
    have made := Except.ok.inj made
    rwa [List.map_map] at made
  have found (name : String) : listed.any (·.sameKey (.text name)) = names.contains name := by
    rw [← keys, any_key, get?_ofPairs_texts, List.contains_eq_mem]
    by_cases member : name ∈ names <;> simp [member]
  refine ⟨fun name => ?_, ?_⟩
  · rw [isListed, ← found]
    rfl
  · cases names with
    | nil => rw [← keys]; rfl
    | cons name names =>
        cases listed with
        | nil => simpa using found name
        | cons => rfl

/-! ## Decisions -/

/-- The pattern that a text is compiled to: none if it is empty, and otherwise one that is searched as
    the text says. -/
theorem compileSetting_text {rule : Rule} {source : String} {pattern? : Option Pattern}
    (made : compileSetting rule (.text source) = .ok pattern?) :
    source = "" ∧ pattern? = none ∨ source ≠ "" ∧ ∃ pattern, pattern? = some pattern ∧
      ∀ name, findIn pattern (.text name) = search source name := by
  by_cases empty : source = ""
  · subst empty
    cases made
    exact .inl ⟨rfl, rfl⟩
  · have truthy : (Value.text source).isTruthy = true := by simpa [Value.isTruthy] using empty
    rw [compileSetting, if_pos truthy] at made
    cases compiled : Pattern.compile source with
    | ok pattern =>
        simp only [compileText, compiled] at made
        cases made
        exact .inr ⟨empty, pattern, rfl, fun name => by simp only [findIn, search, compiled]⟩
    | error error =>
        obtain ⟨fault, failed⟩ := compileSetting_of_doesNotCompile
          ⟨source, error, rfl, empty, compiled⟩ rule
        rw [compileSetting, if_pos truthy] at failed
        cases failed.symm.trans made

theorem exists_ofTexts {texts : TextSettings} (usable : texts.Usable) :
    ∃ filter, ofSettings texts.settings = .ok filter := by
  have textual : Textual texts.settings :=
    ⟨exists_text_of_mem, exists_text_of_mem, ⟨_, rfl⟩, ⟨_, rfl⟩⟩
  exact exists_ofSettings textual usable.includesPattern usable.excludesPattern

section Rules

variable {filter : NameFilter} {name : Value} {rule : Rule} {later : List NamedRule}
  {ask : NameFilter → Value → Except Fault (Option Bool)}

/-- A rule that abstains leaves the name to the rules behind it. -/
theorem firstOpinion_of_abstains (abstains : ask filter name = .ok none) :
    firstOpinion filter name ((rule, ask) :: later) = firstOpinion filter name later := by
  rw [firstOpinion, abstains]
  rfl

/-- A rule that has an opinion whatever it finds decides on the name, so that the rules behind it are
    never asked. -/
theorem firstOpinion_of_opinion {asked : Except Fault Bool} {allows : Bool → Bool}
    (opinion : ask filter name = asked.map fun found => some (allows found)) :
    firstOpinion filter name ((rule, ask) :: later)
      = asked.map fun found => ⟨allows found, rule⟩ := by
  rw [firstOpinion, opinion]
  cases asked <;> rfl

theorem includesPatternRule_of_none (absent : filter.includesPattern = none) :
    includesPatternRule filter name = .ok none := by
  rw [includesPatternRule, absent]

theorem excludesPatternRule_of_none (absent : filter.excludesPattern = none) :
    excludesPatternRule filter name = .ok none := by
  rw [excludesPatternRule, absent]

/-- Where both patterns are absent the two lists are asked. -/
theorem decide_of_no_patterns (absent : filter.includesPattern = none)
    (absent' : filter.excludesPattern = none) :
    filter.decide name
      = firstOpinion filter name [(.includes, includesRule), (.excludes, excludesRule)] := by
  rw [decide, rules, firstOpinion_of_abstains (includesPatternRule_of_none absent),
    firstOpinion_of_abstains (excludesPatternRule_of_none absent')]

/-- A list of names to leave out, the last of the rules, denies the names on it. -/
theorem firstOpinion_excludes {listed : Bool} (found : isListed filter.excludes name = .ok listed) :
    firstOpinion filter name [(.excludes, excludesRule)]
      = .ok (if listed then ⟨false, .excludes⟩ else ⟨true, .default⟩) := by
  rw [firstOpinion, excludesRule, found]
  cases listed <;> rfl

end Rules

theorem decide_of_ofSettings {texts : TextSettings} {filter : NameFilter}
    (made : ofSettings texts.settings = .ok filter) (name : String) :
    filter.decide (.text name) = texts.decision name := by
  obtain ⟨excludes, includes, included, excluded⟩ := madeOf_of_ofSettings made
  have among := holds_of_namesOf includes
  have without := holds_of_namesOf excludes
  rcases compileSetting_text included with
    ⟨noPattern, absent⟩ | ⟨given, pattern, compiled, finds⟩
  · rcases compileSetting_text excluded with
      ⟨noPattern', absent'⟩ | ⟨given, pattern, compiled, finds⟩
    · rw [decide_of_no_patterns absent absent',
        TextSettings.decision_of_lists noPattern noPattern']
      by_cases none : texts.includes = []
      · have abstains : includesRule filter (.text name) = .ok .none := by
          rw [includesRule, if_pos (by rw [among.isEmpty, none]; rfl)]
        rw [firstOpinion_of_abstains abstains, firstOpinion_excludes (without.isListed name),
          if_neg (not_not.mpr none)]
      · have opinion : includesRule filter (.text name)
            = (isListed filter.includes (.text name)).map some := by
          rw [includesRule, if_neg (by simpa [among.isEmpty] using none)]
        rw [firstOpinion_of_opinion opinion, among.isListed, if_pos none]
        rfl
    · have opinion : excludesPatternRule filter (.text name)
          = (findIn pattern (.text name)).map fun found => some !found := by
        rw [excludesPatternRule, compiled]
      rw [decide, rules, firstOpinion_of_abstains (includesPatternRule_of_none absent),
        firstOpinion_of_opinion opinion, finds,
        TextSettings.decision_of_excludesPattern noPattern given]
  · have opinion : includesPatternRule filter (.text name)
        = (findIn pattern (.text name)).map some := by
      rw [includesPatternRule, compiled]
    rw [decide, rules, firstOpinion_of_opinion opinion, finds,
      TextSettings.decision_of_includesPattern given]

/-- A filter that is made of texts decides on a name by the first setting that says anything: the
    pattern of names to watch, the pattern of names to leave out, the list of names to watch, the list
    of names to leave out.  So settings that differ only behind the one that decides, or in the order
    and the number of listed names, decide alike; and a pattern admits as the one exactly the names
    that it denies as the other. -/
theorem first_opinion_decides (texts : TextSettings) (usable : texts.Usable) :
    ∃ filter, ofSettings texts.settings = .ok filter ∧
      (∀ name, filter.decide (.text name) = texts.decision name) ∧
      (∀ other filter', TextSettings.SameRule texts other →
        ofSettings other.settings = .ok filter' →
        ∀ name, filter'.decide (.text name) = filter.decide (.text name)) ∧
      ∀ other filter', TextSettings.Turned texts other →
        ofSettings other.settings = .ok filter' →
        ∀ name, (filter'.decide (.text name)).map (!·.allowed)
          = (filter.decide (.text name)).map (·.allowed) := by
  obtain ⟨filter, made⟩ := exists_ofTexts usable
  refine ⟨filter, made, decide_of_ofSettings made, ?_, ?_⟩
  · intro other filter' same made' name
    rw [decide_of_ofSettings made, decide_of_ofSettings made', same.decision]
  · intro other filter' ⟨given, absent, same⟩ made' name
    rw [decide_of_ofSettings made, decide_of_ofSettings made',
      TextSettings.decision_of_includesPattern given,
      TextSettings.decision_of_excludesPattern absent (same ▸ given), same]
    cases search texts.includesPattern name <;> simp [Except.map]

/-- Settings that watch names in which `web` occurs, and also list names. -/
def watchWeb : TextSettings :=
  { excludes := ["my-web-2"], includes := ["db"], includesPattern := "web" }

theorem isLiteral_web : Pattern.IsLiteral "web" := by
  refine ⟨by decide, fun c member => ?_⟩
  have letters : "web".toList = ['w', 'e', 'b'] := rfl
  simp only [letters, List.mem_cons, List.not_mem_nil, or_false] at member
  rcases member with rfl | rfl | rfl <;> decide

/-- Settings that leave out names in which `web` occurs. -/
def avoidWeb : TextSettings := { includes := ["my-web-2"], excludesPattern := "web" }

/-- The lists are of no account beside a pattern, and the pattern denies as the one what it admits as the
    other. -/
theorem first_opinion_decides_of_example :
    ∃ filter filter' filter'', ofSettings watchWeb.settings = .ok filter ∧
      filter.decide (.text "my-web-2") = .ok ⟨true, .includesPattern⟩ ∧
      ofSettings (TextSettings.settings { includesPattern := "web" }) = .ok filter' ∧
      (∀ name, filter'.decide (.text name) = filter.decide (.text name)) ∧
      ofSettings avoidWeb.settings = .ok filter'' ∧
      ∀ name, (filter''.decide (.text name)).map (!·.allowed)
        = (filter.decide (.text name)).map (·.allowed) := by
  obtain ⟨pattern, compiled, occurs⟩ := isLiteral_web.exists_compile
  have found : search watchWeb.includesPattern "my-web-2" = .ok true := by
    simp only [search, watchWeb, compiled, occurs]
    rw [decide_eq_true (by decide)]
  have web := not_doesNotCompile_of_compile compiled
  have empty := not_doesNotCompile_empty
  obtain ⟨filter, made, decides, alike, turned⟩ := first_opinion_decides watchWeb ⟨web, empty⟩
  obtain ⟨filter', made', -⟩ := first_opinion_decides { includesPattern := "web" } ⟨web, empty⟩
  obtain ⟨filter'', made'', -⟩ := first_opinion_decides avoidWeb ⟨empty, web⟩
  refine ⟨filter, filter', filter'', made, ?_, made', alike _ filter' ?_ made', made'',
    turned avoidWeb filter'' ?_ made''⟩
  · have given : watchWeb.includesPattern ≠ "" := by decide
    rw [decides, TextSettings.decision_of_includesPattern given, found]
    rfl
  · exact .includesPattern (by decide) rfl
  · exact ⟨by decide, rfl, rfl⟩

end ContainerWatch.NameFilter
