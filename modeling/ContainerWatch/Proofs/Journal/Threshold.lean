import Mathlib.Data.List.TakeWhile
import ContainerWatch.Proofs.Journal.Setup

/-!
# What passes the threshold

A logbook that is set up writes the records at the configured level and above, in their order, but for
what the chatty loggers and those below them have to say below warnings.  The threshold of the chatty
loggers stands in the place of the configured one, though, and does not only add to it: where errors
are configured, the warnings of these loggers are written all the same.
-/

namespace ContainerWatch.Journal.Logbook

/-! ## The loggers below another -/

section Hierarchy

variable {loggers : List String} {name : List Char} {root : String}

theorem eq_ofList_reverse_iff : root = String.ofList name.reverse ↔ root.toList.reverse = name := by
  rw [← String.toList_inj, String.toList_ofList, List.reverse_eq_iff]

theorem suffix_of_mem_namesAbove (above : root ∈ namesAbove loggers name) :
    '.' :: root.toList.reverse <:+ name := by
  fun_induction namesAbove loggers name with
  | case1 => cases above
  | case2 => cases above
  | case3 last rest part known again =>
      rcases List.mem_cons.mp above with here | further
      · have whole := eq_ofList_reverse_iff.mp here
        exact whole ▸ List.suffix_rfl
      · exact (again further).trans (List.suffix_cons _ _)
  | case4 last rest part unknown again =>
      have shorter : rest <:+ last :: rest := List.suffix_cons _ _
      exact (again above).trans (shorter.trans (List.suffix_cons _ _))
  | case5 mark last rest noDot again =>
      exact (again above).trans (List.suffix_cons _ _)

/-- In a name without two dots on end, each logger whose name stands in front of a dot is above. -/
theorem mem_namesAbove_of_suffix (plain : ¬ ['.', '.'] <:+: name) (known : root ∈ loggers)
    (named : root ≠ "") (begins : '.' :: root.toList.reverse <:+ name) :
    root ∈ namesAbove loggers name := by
  fun_induction namesAbove loggers name with
  | case1 => simp at begins
  | case2 c =>
      have empty : root.toList = [] := by simpa using begins.length_le
      exact absurd (String.toList_eq_nil_iff.mp empty) named
  | case3 last rest part found again =>
      rcases List.suffix_cons_iff.mp begins with whole | later
      · have same : root = part := eq_ofList_reverse_iff.mpr (List.tail_eq_of_cons_eq whole)
        exact same ▸ List.mem_cons_self
      · exact List.mem_cons_of_mem _ (again (mt List.infix_cons plain) later)
  | case4 last rest part unknown again =>
      rcases List.suffix_cons_iff.mp begins with whole | later
      · have same : root = part := eq_ofList_reverse_iff.mpr (List.tail_eq_of_cons_eq whole)
        exact absurd (by simpa [same] using known) unknown
      · rcases List.suffix_cons_iff.mp later with second | further
        · -- The character that is passed over would be a second dot.
          have double : ['.', '.'] <:+: '.' :: last :: rest := by
            rw [← second]
            exact ⟨[], root.toList.reverse, rfl⟩
          exact absurd double plain
        · exact again (mt List.infix_cons (mt List.infix_cons plain)) further
  | case5 mark last rest noDot again =>
      rcases List.suffix_cons_iff.mp begins with whole | later
      · exact absurd (List.head_eq_of_cons_eq whole).symm noDot
      · exact again (mt List.infix_cons plain) later

end Hierarchy

/-- The part of a name in front of its first dot. -/
def topOf (name : String) : String := String.ofList (name.toList.takeWhile (· != '.'))

/-- A name without a dot is the top of another if it is that name or stands at its beginning in front
    of a dot. -/
theorem topOf_eq_iff {name root : String} (dotless : ∀ c ∈ root.toList, c ≠ '.') :
    topOf name = root ↔ name = root ∨ root.toList ++ ['.'] <+: name.toList := by
  have kept : ∀ c ∈ root.toList, (c != '.') = true := by simpa using dotless
  rw [topOf, ← String.toList_inj, String.toList_ofList]
  constructor
  · intro top
    have parted := List.takeWhile_append_dropWhile (l := name.toList) (p := (· != '.'))
    have stops := List.head?_dropWhile_not (· != '.') name.toList
    rw [top] at parted
    cases behind : name.toList.dropWhile (· != '.') with
    | nil =>
        rw [behind, List.append_nil] at parted
        exact .inl (String.toList_inj.mp parted.symm)
    | cons c rest =>
        have dot : c = '.' := by simpa [behind] using stops
        rw [behind, dot] at parted
        exact .inr ⟨rest, by rw [← parted, List.append_assoc, List.singleton_append]⟩
  · rintro (rfl | ⟨rest, whole⟩)
    · exact List.takeWhile_eq_self_iff.mpr kept
    · rw [← whole, List.append_assoc, List.singleton_append, List.takeWhile_append_of_pos kept,
        List.takeWhile_cons_of_neg (by simp), List.append_nil]

theorem dotless_of_mem_quietLoggers {root : String} (known : root ∈ quietLoggers) :
    root ≠ "" ∧ ∀ c ∈ root.toList, c ≠ '.' := by
  simp only [quietLoggers, List.mem_cons, List.not_mem_nil, or_false] at known
  rcases known with rfl | rfl <;> simp

namespace Logger

variable {logger : Logger}

/-- A logger that is a chatty one or below one has the name of that one for its top. -/
theorem topOf_mem_of_isQuiet (quiet : logger.isQuiet = true) :
    topOf logger.name ∈ quietLoggers := by
  obtain ⟨root, known, below⟩ := List.any_eq_true.mp quiet
  obtain ⟨-, dotless⟩ := dotless_of_mem_quietLoggers known
  suffices top : topOf logger.name = root from top ▸ known
  rw [topOf_eq_iff dotless]
  rcases Bool.or_eq_true_iff.mp below with same | above
  · exact .inl (by simpa using same)
  · right
    rw [← List.reverse_suffix]
    simpa using suffix_of_mem_namesAbove (List.contains_iff_mem.mp above)

/-- A logger whose name has no two dots on end is a chatty one or below one exactly if its top is the
    name of one, whatever other loggers there are. -/
theorem isQuiet_iff_of_plain (plain : ¬ ['.', '.'] <:+: logger.name.toList) :
    logger.isQuiet = true ↔ topOf logger.name ∈ quietLoggers := by
  constructor
  · exact topOf_mem_of_isQuiet
  · intro known
    obtain ⟨named, dotless⟩ := dotless_of_mem_quietLoggers known
    refine List.any_eq_true.mpr ⟨_, known, Bool.or_eq_true_iff.mpr ?_⟩
    rcases (topOf_eq_iff dotless).mp rfl with same | begins
    · exact .inl (by simpa using same)
    · right
      have plain' : ¬ ['.', '.'] <:+: logger.name.toList.reverse := by
        rwa [← List.reverse_infix, List.reverse_reverse]
      have among := List.mem_append_left logger.others known
      rw [← List.reverse_suffix] at begins
      exact List.contains_iff_mem.mpr
        (mem_namesAbove_of_suffix plain' among named (by simpa using begins))

end Logger

/-! ## The records that are written -/

/-- A record that is handed to a logger at a level. -/
structure Submission where
  logger : Logger
  level : Int
  record : Record

namespace Submission

variable {submission : Submission} {configured : Int}

/-- A submission at a configured level or above, and not below warnings if its logger is a chatty one
    or below one.  There are no records at level zero and below it. -/
def Passes (configured : Int) (submission : Submission) : Prop :=
  0 < submission.level ∧ configured ≤ submission.level ∧
    (submission.logger.isQuiet = true → 30 ≤ submission.level)

/-- A submission below a configured level that the threshold of the chatty loggers lets through. -/
def Slips (configured : Int) (submission : Submission) : Prop :=
  submission.logger.isQuiet = true ∧ 30 ≤ submission.level ∧ submission.level < configured

instance : DecidablePred (Passes configured) := fun submission =>
  inferInstanceAs (Decidable (0 < submission.level ∧ configured ≤ submission.level ∧ _))

instance : DecidablePred (Slips configured) := fun submission =>
  inferInstanceAs (Decidable (submission.logger.isQuiet = true ∧ 30 ≤ submission.level ∧ _))

/-- Nothing slips through where warnings or less are configured. -/
theorem not_slips_of_le (low : configured ≤ 30) : ¬ submission.Slips configured := by
  rintro ⟨-, warning, below⟩
  omega

end Submission

/-- What is written to the output for a submission. -/
def take (logbook : Logbook) (submission : Submission) : String :=
  if logbook.admits submission.logger submission.level then logbook.write submission.record else ""

/-- What is written to the output for several submissions, one after the other. -/
def takeAll (logbook : Logbook) (submissions : List Submission) : String :=
  String.join (submissions.map logbook.take)

/-- What a layout writes for a record: its line, or nothing if it cannot be laid out. -/
def textFor (layout : Layout) (record : Record) : String :=
  match layout.line record with
  | .ok line => line ++ "\n"
  | .error _ => ""

section Writing

variable {format level hostname : String} {logbook : Logbook} {layout : Layout}
  {submission : Submission}

/-- A message that is logged is taken as the record that is made of it. -/
theorem log_eq_take {logger : Logger} {given message created : Value}
    {extra : List (String × Value)} {number : Int} {record : Record}
    (numbered : levelNumber given = .ok number)
    (made : makeRecord logger.name given message extra created = .ok record) :
    logbook.log logger given message extra created
      = .ok (logbook.take ⟨logger, number, record⟩) := by
  rw [log, numbered, made, take]
  show (if logbook.admits logger number = true then _ else _) = Except.ok (ite _ _ _)
  split <;> rfl

theorem logEntry_eq_take (entry : Entry) (created : Value) :
    logbook.logEntry entry created
      = logbook.take ⟨entry.part.name, entry.level.number, .ofEntry entry created⟩ := rfl

theorem write_of_single (single : logbook.sinks = [some layout]) (record : Record) :
    logbook.write record = textFor layout record := by
  simp only [write, single, List.map_cons, List.map_nil, String.join_cons, String.join_nil,
    String.append_empty]
  rfl

/-- A logbook that is set up admits what passes its level, and what slips through. -/
theorem admits_iff (ready : IsSetUp format level hostname logbook) :
    logbook.admits submission.logger submission.level = true ↔
      submission.Passes (levelOf level) ∨ submission.Slips (levelOf level) := by
  rw [admits, thresholdOf, ready.threshold, ready.quiet.1, Bool.and_eq_true, decide_eq_true_iff,
    decide_eq_true_iff, Submission.Passes, Submission.Slips]
  by_cases quiet : submission.logger.isQuiet = true
  · rw [if_pos ⟨by decide, quiet⟩]
    simp only [quiet, true_imp_iff, true_and]
    omega
  · rw [if_neg (fun both => quiet both.2)]
    simp [quiet]

/-- What is written for a submission. -/
theorem take_eq (ready : IsSetUp format level hostname logbook)
    (single : logbook.sinks = [some layout]) :
    logbook.take submission =
      if submission.Passes (levelOf level) ∨ submission.Slips (levelOf level) then
        textFor layout submission.record
      else
        "" := by
  rw [take, write_of_single single]
  exact if_congr (admits_iff ready) rfl rfl

/-- What is written for several submissions are the texts of those that pass or slip through. -/
theorem takeAll_eq (ready : IsSetUp format level hostname logbook)
    (single : logbook.sinks = [some layout]) (submissions : List Submission) :
    logbook.takeAll submissions =
      String.join ((submissions.filter fun submission =>
        submission.Passes (levelOf level) ∨ submission.Slips (levelOf level)).map fun submission =>
          textFor layout submission.record) := by
  induction submissions with
  | nil => rfl
  | cons submission later again =>
      rw [takeAll, List.map_cons, String.join_cons, ← takeAll, again, take_eq ready single]
      by_cases written : submission.Passes (levelOf level) ∨ submission.Slips (levelOf level)
      · rw [if_pos written, List.filter_cons_of_pos (by simpa using written), List.map_cons,
          String.join_cons]
      · rw [if_neg written, List.filter_cons_of_neg (by simpa using written), String.empty_append]

end Writing

theorem levelOf_of_lookup {level : String} {configured : Int}
    (named : Record.levelNumbers.lookup (capitals level) = some configured) :
    ¬ IsMisnomer level ∧ levelOf level = configured := by
  constructor
  · rintro (format | table)
    · rw [format] at named
      cases named
    · rw [table] at named
      cases named
  · rw [levelOf, named, Option.getD_some]

/-- A logbook that is set up, once or several times, with the name of a level writes the texts of
    those submissions that pass this level, in their order, unless some slip through; and of those too
    that do, although they are below the level.  Nothing slips through below errors. -/
theorem written_exactly_at_level_unless_slipping (format level hostname : String)
    (logbook : Logbook) (count : Nat) (called : 1 ≤ count) (configured : Int)
    (named : Record.levelNumbers.lookup (capitals level) = some configured) :
    ∃ after, setUpTimes format level hostname count logbook = .ok after ∧
      (∀ submissions : List Submission,
        (∀ submission ∈ submissions, ¬ submission.Slips configured) →
          after.takeAll submissions =
            String.join ((submissions.filter (·.Passes configured)).map
              fun submission => textFor ⟨formatNamed format, hostname⟩ submission.record)) ∧
      (∀ submissions : List Submission,
        after.takeAll submissions =
          String.join ((submissions.filter fun submission =>
            submission.Passes configured ∨ submission.Slips configured).map
              fun submission => textFor ⟨formatNamed format, hostname⟩ submission.record)) ∧
      (configured ≤ 30 → ∀ submission : Submission, ¬ submission.Slips configured) ∧
      (∀ logger : Logger, ¬ ['.', '.'] <:+: logger.name.toList →
        (logger.isQuiet = true ↔ topOf logger.name ∈ quietLoggers)) := by
  obtain ⟨count, rfl⟩ := Nat.exists_eq_add_of_le' called
  obtain ⟨proper, rfl⟩ := levelOf_of_lookup named
  have ready := isSetUp format level hostname
  refine ⟨_, setUpTimes_succ_of_proper proper count, ?_, takeAll_eq ready rfl, ?_, ?_⟩
  · intro submissions unslipping
    rw [takeAll_eq ready rfl]
    congr 2
    apply List.filter_congr
    intro submission member
    simp only [unslipping submission member, or_false]
  · exact fun low submission => Submission.not_slips_of_le low
  · exact fun logger plain => Logger.isQuiet_iff_of_plain plain

/-- A record of a message by a logger, at the beginning of the count of time. -/
def sampleRecord (logger levelName : String) : Record where
  logger := .text logger
  levelName := .text levelName
  message := .text "m"
  args := .tuple []
  created := .int 0
  note := .absent
  extra := []

/-- Submissions to a logbook for errors: an error of a logger below a chatty one, a warning of another
    logger, and a message of the chatty one itself. -/
def exampleSubmissions : List Submission :=
  [⟨"docker.api", 40, sampleRecord "docker.api" "ERROR"⟩,
    ⟨"dockwatch.main", 30, sampleRecord "dockwatch.main" "WARNING"⟩,
    ⟨"docker", 20, sampleRecord "docker" "INFO"⟩]

/-- Of the submissions of the example, the logbook writes the error. -/
theorem written_exactly_at_level_of_example :
    1 ≤ 2 ∧ Record.levelNumbers.lookup (capitals "Error") = some 40 ∧
      (∀ submission ∈ exampleSubmissions, ¬ submission.Slips 40) ∧
      ∃ after, setUpTimes "text" "Error" "" 2 ⟨[none], 30, 0⟩ = .ok after ∧
        after.takeAll exampleSubmissions = "[1970-01-01 00:00:00] ERROR    docker.api: m\n" := by
  have named : Record.levelNumbers.lookup (capitals "Error") = some 40 := by decide +kernel
  have unslipping : ∀ submission ∈ exampleSubmissions, ¬ submission.Slips 40 := by decide
  obtain ⟨after, ready, writes, -⟩ := written_exactly_at_level_unless_slipping "text" "Error" ""
    ⟨[none], 30, 0⟩ 2 (by decide) 40 named
  refine ⟨by decide, named, unslipping, after, ready, ?_⟩
  rw [writes exampleSubmissions unslipping]
  decide +kernel

/-- A warning of a chatty logger is written where errors are configured. -/
theorem warning_slips_through_errors :
    Record.levelNumbers.lookup (capitals "error") = some 40 ∧ (30 : Int) < 40 ∧
      ∃ after, setUpTimes "text" "error" "" 1 ⟨[], 40, 0⟩ = .ok after ∧
        after.log "docker" (.int 30) (.text "m") [] (.int 0)
          = .ok "[1970-01-01 00:00:00] WARNING  docker: m\n" := by
  have named : Record.levelNumbers.lookup (capitals "error") = some 40 := by decide +kernel
  obtain ⟨proper, value⟩ := levelOf_of_lookup named
  have made : makeRecord "docker" (.int 30) (.text "m") [] (.int 0)
      = .ok (sampleRecord "docker" "WARNING") := rfl
  refine ⟨named, by decide, _, setUpTimes_succ_of_proper proper 0, ?_⟩
  rw [log_eq_take rfl made, value]
  exact congrArg Except.ok (by decide +kernel)

end ContainerWatch.Journal.Logbook
