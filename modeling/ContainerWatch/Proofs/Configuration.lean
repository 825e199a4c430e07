import ContainerWatch.Proofs.NameFilter.Precedence
import ContainerWatch.Proofs.Text
import ContainerWatch.Proofs.Watcher.Opening
import ContainerWatch.Session

/-!
# Lists of names in the environment

A list of names is a text.  The names on it are what is left of its pieces between commas without the
white space around them, as far as anything is left, so that names that are joined by commas are read
back.  The filter of a watcher that a session opens decides by the names on its two lists, and a list
of names to watch that holds none is of no account.
-/

namespace ContainerWatch.Configuration

open NameFilter (TextSettings)

variable {environment : List (String × String)} {configuration : Configuration} {ε : Type}
  {read : List (String × String) → Except ε Configuration}
  {excludes includes list name : String} {names pieces : List String} {filter : NameFilter}

/-! ## The names on a list -/

/-- A text of white space. -/
def IsBlank (text : List Char) : Prop := ∀ c ∈ text, Unicode.isSpace c

/-- A name is on a list: there is something to it, and it is a piece of the list between commas without
    the white space around it. -/
def Lists (list name : String) : Prop :=
  name ≠ "" ∧ ∃ piece ∈ list.toList.splitOn ',', Text.Trims Unicode.isSpace piece name.toList

/-- There is nothing between the commas of a list but white space. -/
def ListsNothing (list : String) : Prop := ∀ piece ∈ list.toList.splitOn ',', IsBlank piece

theorem mem_splitNames_iff : name ∈ splitNames list ↔ Lists list name := by
  simp only [splitNames, Lists, Text.piecesAt_eq_splitOn, List.mem_map, List.mem_filter,
    ← Text.trimBy_eq_iff]
  constructor
  · rintro ⟨_, ⟨⟨piece, member, rfl⟩, filled⟩, rfl⟩
    refine ⟨?_, piece, member, String.toList_ofList.symm⟩
    intro empty
    rw [String.ofList_eq_empty_iff] at empty
    rw [empty] at filled
    cases filled
  · rintro ⟨filled, piece, member, trimmed⟩
    refine ⟨name.toList, ⟨⟨piece, member, trimmed⟩, ?_⟩, String.ofList_toList⟩
    simpa using filled

theorem splitNames_eq_nil_iff : splitNames list = [] ↔ ListsNothing list := by
  simp only [splitNames, ListsNothing, IsBlank, Text.piecesAt_eq_splitOn, List.map_eq_nil_iff,
    List.filter_eq_nil_iff, List.forall_mem_map, ← Text.trimBy_eq_nil_iff]
  simp

theorem exists_lists_iff : (∃ name, Lists list name) ↔ splitNames list ≠ [] := by
  simp only [← mem_splitNames_iff, ne_eq, List.eq_nil_iff_forall_not_mem, not_forall, not_not]

/-! ## Joined names -/

/-- A name that is read back: there is something to it, there is no comma in it and no white space at
    its ends. -/
structure IsListable (name : String) : Prop where
  filled : name ≠ ""
  whole : ',' ∉ name.toList
  trim : Text.IsTrim Unicode.isSpace name.toList

/-- Pieces that write names: each of the names in its turn with white space around it, and any number of
    blank pieces before, between and after them. -/
inductive Writes : List String → List String → Prop
  | nil : Writes [] []
  | blank {names pieces : List String} {piece : String} (blank : IsBlank piece.toList)
      (more : Writes names pieces) : Writes names (piece :: pieces)
  | named {names pieces : List String} {name before after : String} (listable : IsListable name)
      (blank_before : IsBlank before.toList) (blank_after : IsBlank after.toList)
      (more : Writes names pieces) : Writes (name :: names) ((before ++ name ++ after) :: pieces)

theorem comma_not_mem_of_isBlank {text : List Char} (blank : IsBlank text) : ',' ∉ text := by
  intro member
  have space := blank ',' member
  rw [show Unicode.isSpace ',' = false by decide] at space
  cases space

/-- Pieces that write names have no commas in them. -/
theorem Writes.comma_not_mem (writes : Writes names pieces) : ∀ piece ∈ pieces, ',' ∉ piece.toList := by
  induction writes with
  | nil => exact List.forall_mem_nil _
  | blank blank _ ih => exact List.forall_mem_cons.mpr ⟨comma_not_mem_of_isBlank blank, ih⟩
  | named listable blank_before blank_after _ ih =>
      refine List.forall_mem_cons.mpr ⟨?_, ih⟩
      have before := comma_not_mem_of_isBlank blank_before
      have after := comma_not_mem_of_isBlank blank_after
      simp [before, after, listable.whole]

/-- What is left of pieces that write names, as far as anything is left of them, is the names. -/
theorem Writes.trimmed (writes : Writes names pieces) :
    (((pieces.map String.toList).map (Text.trimBy Unicode.isSpace)).filter (!·.isEmpty)).map
      String.ofList = names := by
  induction writes with
  | nil => rfl
  | blank blank _ ih => simpa [Text.trimBy_eq_nil_iff.mpr blank] using ih
  | @named names pieces name before after listable blank_before blank_after _ ih =>
      have trims : Text.Trims Unicode.isSpace (before ++ name ++ after).toList name.toList :=
        ⟨before.toList, after.toList, by simp, blank_before, blank_after, listable.trim⟩
      have filled : name.toList.isEmpty = false := by simpa using listable.filled
      rw [List.map_cons, List.map_cons, trims.trimBy_eq, List.filter_cons_of_pos (by simp [filled]),
        List.map_cons, String.ofList_toList, ih]

/-- Names that are joined by commas, with white space around them and blank pieces between them, are
    read back in their order. -/
theorem splitNames_intercalate (writes : Writes names pieces) :
    splitNames (String.intercalate "," pieces) = names := by
  have trimmed := writes.trimmed
  cases pieces with
  | nil =>
      rw [← trimmed]
      rfl
  | cons piece pieces =>
      have split : (String.intercalate "," (piece :: pieces)).toList.splitOn ','
          = (piece :: pieces).map String.toList := by
        rw [String.toList_intercalate]
        refine List.splitOn_intercalate ',' ?_ (by simp)
        simpa using writes.comma_not_mem
      rw [splitNames, Text.piecesAt_eq_splitOn, split, trimmed]

/-! ## The filter of a session -/

/-- An environment that gives two lists of names, of which an empty one stands for none, and no
    patterns. -/
structure GivesLists (environment : List (String × String)) (excludes includes : String) : Prop where
  excludes : (valueOf? environment "excludes").getD "" = excludes
  includes : (valueOf? environment "includes").getD "" = includes
  includesPattern : (valueOf? environment "includes_pattern").getD "" = ""
  excludesPattern : (valueOf? environment "excludes_pattern").getD "" = ""

/-- The texts that the filter is made of, by the names of their settings. -/
def filterTexts : List (String × (Configuration → String)) :=
  [("excludes", (·.excludes)), ("includes", (·.includes)),
    ("includes_pattern", (·.includesPattern)), ("excludes_pattern", (·.excludesPattern))]

/-- A reader of environments hands over unchanged the texts that the filter is made of, each of which
    is empty where nothing is given. -/
def HandsTextsOver (read : List (String × String) → Except ε Configuration) : Prop :=
  ∀ environment configuration, read environment = .ok configuration →
    ∀ setting ∈ filterTexts, setting.2 configuration = (valueOf? environment setting.1).getD ""

/-- A filter admits the names with a property, and decides on every name. -/
def Admits (filter : NameFilter) (property : String → Prop) : Prop :=
  ∀ name, ∃ verdict, filter.decide (.text name) = .ok verdict ∧
    (verdict.allowed = true ↔ property name)

/-- The texts of a configuration that its filter is made of. -/
def texts (configuration : Configuration) : TextSettings where
  excludes := configuration.excludeList
  includes := configuration.includeList
  includesPattern := configuration.includesPattern
  excludesPattern := configuration.excludesPattern

theorem settings_texts (configuration : Configuration) :
    configuration.texts.settings = configuration.filterSettings := rfl

/-- The program's own reader hands texts over unchanged, whatever numbers there are beside them. -/
theorem handsTextsOver_ofEnvironment : HandsTextsOver ofEnvironment := by
  intro environment configuration read
  cases timeout : numberField environment "docker_timeout" 60 with
  | error first =>
      cases size : numberField environment "buffer_size" 100 <;>
        simp [ofEnvironment, timeout, size] at read
  | ok seconds =>
      cases size : numberField environment "buffer_size" 100 with
      | error second => simp [ofEnvironment, timeout, size] at read
      | ok room =>
          simp only [ofEnvironment, timeout, size, Except.ok.injEq] at read
          subst read
          simp [filterTexts]

/-- A configuration that is read holds the lists that its environment gives. -/
theorem texts_of_handsTextsOver (faithful : HandsTextsOver read)
    (gives : GivesLists environment excludes includes)
    (reads : read environment = .ok configuration) :
    configuration.texts = { excludes := splitNames excludes, includes := splitNames includes } := by
  have handed := faithful environment configuration reads
  simp only [filterTexts, List.forall_mem_cons] at handed
  obtain ⟨excluded, included, watched, denied, -⟩ := handed
  simp only [texts, excludeList, includeList, excluded, included, watched, denied, gives.excludes,
    gives.includes, gives.includesPattern, gives.excludesPattern]

/-- Lists without patterns make a filter, which decides by the first list that is not empty. -/
theorem exists_filter_of_lists (excludes includes : List String) :
    ∃ filter, NameFilter.ofSettings
        (TextSettings.settings { excludes := excludes, includes := includes }) = .ok filter ∧
      Admits filter fun name => if includes ≠ [] then name ∈ includes else name ∉ excludes := by
  have usable : TextSettings.Usable { excludes := excludes, includes := includes } :=
    ⟨NameFilter.not_doesNotCompile_empty, NameFilter.not_doesNotCompile_empty⟩
  obtain ⟨filter, made⟩ := NameFilter.exists_ofTexts usable
  refine ⟨filter, made, fun name => ?_⟩
  have decides := NameFilter.decide_of_ofSettings made name
  rw [TextSettings.decision_of_lists rfl rfl] at decides
  refine ⟨_, decides, ?_⟩
  by_cases given : includes = []
  · by_cases listed : name ∈ excludes <;> simp [given, listed]
  · simp [given]

/-- The filter of every watcher that a session opens decides by what is on the two lists of the
    environment, if there are no patterns, whatever reader hands the lists over.  Without a list of
    names to watch it admits the names that are not on the other list; with one, it admits the names
    on it; and a list of names to watch on which there is nothing is of no account.  The names on a
    list are the pieces between its commas without the white space around them, so that joined names
    are read back in their order. -/
theorem lists_tell_names (read : List (String × String) → Except ε Configuration)
    (faithful : HandsTextsOver read) (environment : List (String × String))
    (excludes includes : String) (configuration : Configuration)
    (gives : GivesLists environment excludes includes)
    (reads : read environment = .ok configuration) :
    ∃ filter, NameFilter.ofSettings configuration.filterSettings = .ok filter ∧
      (∀ client watch, (Watcher.openWith (Session.options configuration) client).report.outcome
        = .ok watch → watch.setup.filter = filter) ∧
      (includes = "" ∨ ListsNothing includes → Admits filter fun name => ¬ Lists excludes name) ∧
      (ListsNothing includes →
        NameFilter.ofSettings { configuration with includes := "" }.filterSettings = .ok filter) ∧
      ((∃ name, Lists includes name) → Admits filter fun name => Lists includes name) ∧
      ∀ names pieces, Writes names pieces → splitNames (String.intercalate "," pieces) = names := by
  have given := texts_of_handsTextsOver faithful gives reads
  obtain ⟨filter, made, admits⟩ :=
    exists_filter_of_lists (splitNames excludes) (splitNames includes)
  rw [← given, settings_texts] at made
  refine ⟨filter, made, ?_, ?_, ?_, ?_, fun names pieces => splitNames_intercalate⟩
  · intro client watch opened
    obtain ⟨_, _, made', _⟩ := Watcher.openWith_eq_ok opened
    exact Except.ok.inj (made'.symm.trans made)
  · intro nothing
    have unlisted : splitNames includes = [] := by
      rcases nothing with rfl | nothing
      · rfl
      · exact splitNames_eq_nil_iff.mpr nothing
    simpa only [unlisted, ne_eq, not_true_eq_false, if_false, mem_splitNames_iff] using admits
  · intro nothing
    have unlisted : configuration.includeList = [] := by
      rw [show configuration.includeList = configuration.texts.includes from rfl, given]
      exact splitNames_eq_nil_iff.mpr nothing
    rw [← made, filterSettings, filterSettings, unlisted]
    rfl
  · intro listed
    have some := exists_lists_iff.mp listed
    simpa only [some, ne_eq, not_false_eq_true, if_true, mem_splitNames_iff] using admits

/-- A list with blank pieces, and names with white space around them. -/
def exampleList : String := " , web ,,\tdb\x1c"

/-- The configuration of an environment with that list of names to watch watches just these names,
    though one of them is also to be left out. -/
theorem lists_tell_names_of_example :
    ∃ configuration filter,
      GivesLists [("DOCKWATCH_EXCLUDES", "db"), ("Dockwatch_Includes", exampleList)] "db" exampleList ∧
      ofEnvironment [("DOCKWATCH_EXCLUDES", "db"), ("Dockwatch_Includes", exampleList)]
        = .ok configuration ∧
      NameFilter.ofSettings configuration.filterSettings = .ok filter ∧
      Admits filter fun name => name = "web" ∨ name = "db" := by
  have gives : GivesLists [("DOCKWATCH_EXCLUDES", "db"), ("Dockwatch_Includes", exampleList)] "db"
      exampleList := by constructor <;> decide +kernel
  have reads : ofEnvironment [("DOCKWATCH_EXCLUDES", "db"), ("Dockwatch_Includes", exampleList)]
      = .ok { excludes := "db", includes := exampleList } := by decide +kernel
  obtain ⟨filter, made, -, -, -, admits, -⟩ := lists_tell_names ofEnvironment
    handsTextsOver_ofEnvironment _ "db" exampleList _ gives reads
  have names : splitNames exampleList = ["web", "db"] := by decide +kernel
  have listed (name : String) : Lists exampleList name ↔ name = "web" ∨ name = "db" := by
    rw [← mem_splitNames_iff, names]
    simp
  refine ⟨_, filter, gives, reads, made, ?_⟩
  simpa only [listed] using admits ⟨"web", (listed "web").mpr (.inl rfl)⟩

end ContainerWatch.Configuration
