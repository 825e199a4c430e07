import ContainerWatch.Journal.Logbook

/-!
# Setting the logbook up

A logbook that is set up has one sink, whatever sinks it had, and the threshold of the level it is
given the name of.  Levels are looked up among everything that the journal has a name for, though,
and two of the names that are all capitals are not those of levels; with one of these a logbook is
not set up at all.
-/

namespace ContainerWatch.Journal.Logbook

variable {format level hostname : String} {logbook : Logbook} {fault : Fault}

def capitals (name : String) : String := String.ofList (Unicode.upperText name.toList)

/-- The number of the level that a name stands for in capitals, and that of information for a name
    that stands for none. -/
def levelOf (name : String) : Int := (Record.levelNumbers.lookup (capitals name)).getD 20

/-- A name that stands in capitals for something else than a level: the format of a message, or the
    table of styles. -/
def IsMisnomer (name : String) : Prop :=
  capitals name = "BASIC_FORMAT" ∨ capitals name = "_STYLES"

/-- A logbook that is set up with the names of a format and of a level. -/
structure IsSetUp (format level hostname : String) (logbook : Logbook) : Prop where
  single : ∃ layout, logbook.sinks = [some layout] ∧ layout.hostname = hostname ∧
    (layout.format = .json ↔ Unicode.lowerText format.toList = "json".toList) ∧
    (layout.format = .text ↔ Unicode.lowerText format.toList ≠ "json".toList)
  threshold : logbook.threshold = levelOf level
  quiet : logbook.quietThreshold = 30 ∧
    logbook.thresholdOf "docker" = 30 ∧ logbook.thresholdOf "urllib3" = 30

theorem levelChoice_of_proper {name : String} (noFormat : name ≠ "BASIC_FORMAT")
    (noTable : name ≠ "_STYLES") :
    levelChoice name = .level ((Record.levelNumbers.lookup name).getD 20) := by
  by_cases listed : name ∈ Record.levelNumbers.map Prod.fst
  · simp only [Record.levelNumbers, List.map_cons, List.map_nil, List.mem_cons, List.not_mem_nil,
      or_false] at listed
    rcases listed with rfl | rfl | rfl | rfl | rfl | rfl | rfl | rfl <;> rfl
  · have unlisted : Record.levelNumbers.lookup name = none := by
      rw [List.lookup_eq_none_iff]
      intro entry mem
      rw [bne_iff_ne]
      rintro rfl
      exact listed (List.mem_map_of_mem mem)
    simp only [Record.levelNumbers, List.map_cons, List.map_nil, List.mem_cons, List.not_mem_nil,
      or_false, not_or] at listed
    obtain ⟨noCritical, noFatal, noError, noWarn, noWarning, noInfo, noDebug, noNotset⟩ := listed
    rw [unlisted, levelChoice, if_neg (by simp [noCritical, noFatal]), if_neg noError,
      if_neg (by simp [noWarn, noWarning]), if_neg noInfo, if_neg noDebug, if_neg noNotset,
      if_neg noFormat, if_neg noTable, Option.getD_none]

theorem thresholdNamed_of_proper (proper : ¬ IsMisnomer level) :
    thresholdNamed level = .ok (levelOf level) := by
  obtain ⟨noFormat, noTable⟩ := not_or.mp proper
  have choice := levelChoice_of_proper noFormat noTable
  rw [thresholdNamed, ← capitals, choice, levelOf]

theorem thresholdNamed_of_misnomer (misnomer : IsMisnomer level) :
    ∃ fault, thresholdNamed level = .error fault ∧ (fault.kind = .value ∨ fault.kind = .type) := by
  rcases misnomer with named | named
  · refine ⟨.ofMessage .value ("Unknown level: " ++ Text.quoted percentFormat), ?_, .inl rfl⟩
    rw [thresholdNamed, ← capitals, named]
    rfl
  · refine ⟨.ofMessage .type ("Level not an integer or a valid string: " ++ styleTableText), ?_,
      .inr rfl⟩
    rw [thresholdNamed, ← capitals, named]
    rfl

/-- Sinks that are removed one after the other take nothing but sinks from the logbook. -/
theorem foldl_removeSink (sinks : List (Option Layout)) (logbook : Logbook) :
    sinks.foldl removeSink logbook = { logbook with sinks := sinks.foldl List.erase logbook.sinks } := by
  induction sinks generalizing logbook with
  | nil => rfl
  | cons sink sinks rest =>
      rw [List.foldl_cons, List.foldl_cons, rest]
      rfl

/-- Removing every sink that was there leaves none, also where several of them are alike. -/
theorem foldl_erase_self (sinks : List (Option Layout)) : sinks.foldl List.erase sinks = [] := by
  induction sinks with
  | nil => rfl
  | cons sink sinks rest => rw [List.foldl_cons, List.erase_cons_head, rest]

/-- The sinks that were there are all removed, and the new one is left alone. -/
theorem setUp_of_proper (proper : ¬ IsMisnomer level) :
    logbook.setUp format level hostname
      = .ok ⟨[some ⟨formatNamed format, hostname⟩], levelOf level, 30⟩ := by
  rw [setUp, thresholdNamed_of_proper proper]
  simp only [bind, Except.bind, pure, Except.pure, foldl_removeSink, foldl_erase_self, addSink,
    quieten, List.nil_append]

theorem setUpTimes_succ_of_proper (proper : ¬ IsMisnomer level) (count : Nat) :
    setUpTimes format level hostname (count + 1) logbook
      = .ok ⟨[some ⟨formatNamed format, hostname⟩], levelOf level, 30⟩ := by
  induction count generalizing logbook with
  | zero =>
      rw [setUpTimes, setUp_of_proper proper]
      rfl
  | succ count again =>
      rw [setUpTimes, setUp_of_proper proper]
      exact again

/-- The one sink lays out in the format that is named, and the chatty loggers have the threshold of
    warnings. -/
theorem isSetUp (format level hostname : String) :
    IsSetUp format level hostname
      ⟨[some ⟨formatNamed format, hostname⟩], levelOf level, 30⟩ := by
  refine ⟨⟨_, rfl, rfl, ?_⟩, rfl, rfl, rfl, rfl⟩
  by_cases named : Unicode.lowerText format.toList = "json".toList
  · simp [formatNamed, named]
  · simp [formatNamed]

/-- Setting a logbook up, once or several times, ends well exactly for the names that are no
    misnomers.  It then leaves one sink, the threshold of the level that is named, and that of
    warnings for the chatty loggers, and otherwise fails. -/
theorem setUpTimes_ends_well_but_for_misnomers (format level hostname : String) (logbook : Logbook)
    (count : Nat) (called : 1 ≤ count) :
    (¬ IsMisnomer level → ∃ after,
      setUpTimes format level hostname count logbook = .ok after ∧
        IsSetUp format level hostname after) ∧
    (IsMisnomer level → ∃ fault,
      setUpTimes format level hostname count logbook = .error fault ∧
        (fault.kind = .value ∨ fault.kind = .type)) := by
  obtain ⟨count, rfl⟩ := Nat.exists_eq_add_of_le' called
  constructor
  · intro proper
    exact ⟨_, setUpTimes_succ_of_proper proper count, isSetUp format level hostname⟩
  · intro misnomer
    obtain ⟨fault, refused, kind⟩ := thresholdNamed_of_misnomer misnomer
    refine ⟨fault, ?_, kind⟩
    rw [setUpTimes, setUp, refused]
    rfl

/-- A logbook with two sinks of others that is set up twice for a format and a level in mixed case. -/
theorem setUpTimes_ends_well_of_example :
    1 ≤ 2 ∧ ¬ IsMisnomer "wArning" ∧ ∃ after,
      setUpTimes "jSON" "wArning" "host" 2 ⟨[none, none], 40, 0⟩ = .ok after ∧
        IsSetUp "jSON" "wArning" "host" after := by
  have proper : ¬ IsMisnomer "wArning" := by
    rw [IsMisnomer, show capitals "wArning" = "WARNING" by decide +kernel]
    decide
  exact ⟨by decide, proper,
    (setUpTimes_ends_well_but_for_misnomers "jSON" "wArning" "host" ⟨[none, none], 40, 0⟩ 2
      (by decide)).1 proper⟩

/-- The name of the format of a message is no name of a level, and yet does not stand for the level of
    information: with it, a logbook cannot be set up. -/
theorem setUp_refuses_name_of_format :
    Record.levelNumbers.lookup (capitals "basic_format") = none ∧
      ¬ ∃ after, setUpTimes "text" "basic_format" "" 1 ⟨[], 30, 0⟩ = .ok after ∧
        IsSetUp "text" "basic_format" "" after := by
  have named : capitals "basic_format" = "BASIC_FORMAT" := by decide +kernel
  refine ⟨by rw [named]; rfl, ?_⟩
  rintro ⟨after, setUp, _⟩
  obtain ⟨fault, refused, _⟩ := thresholdNamed_of_misnomer (.inl named)
  rw [setUpTimes, Logbook.setUp, refused] at setUp
  cases setUp

end ContainerWatch.Journal.Logbook
