import ContainerWatch.NameFilter
import ContainerWatch.Proofs.Identity.Search

/-!
# Logical names

The logical name of a container is told by the first line of its raw name that reads as the name of a
replica, and only where there is none by its label.  So all tasks of one replica have one name,
whatever their labels and identifiers are, and two replicas never share one.
-/

namespace ContainerWatch.Identity

open Pattern

/-- The lines of a raw name without the slash in front of it. -/
def nameLines (raw : String) : List (List Char) := (withoutSlash raw.toList).splitOn '\n'

/-! ## Names of replicas and other names -/

section Names

variable {labels : Entries} {raw : String} {service number : List Char}

/-- A raw name that tells a replica names the container, whatever its labels are. -/
theorem nameOf_of_tellsReplica (tells : TellsReplica (withoutSlash raw.toList) service number) :
    nameOf labels (.text raw) = .ok (.text (String.ofList (service ++ '-' :: number))) := by
  rw [← replica?_eq_some_iff] at tells
  simp only [nameOf, nameOfText, tells]

theorem nameOf_of_unread (unread : ∀ line ∈ nameLines raw, ¬ Reads line) :
    nameOf labels (.text raw)
      = .ok ((labels.getNull nameLabel).orElse (.text (String.ofList (withoutSlash raw.toList)))) := by
  have missed := replica?_eq_none_iff.mpr unread
  simp only [nameOf, nameOfText, missed]

/-- A name in which some line reads as the name of a replica tells one. -/
theorem exists_tellsReplica {name line : List Char} (among : line ∈ name.splitOn '\n')
    (reads : Reads line) : ∃ service number, TellsReplica name service number := by
  cases found : replica? name with
  | none => exact absurd reads (replica?_eq_none_iff.mp found line among)
  | some pair => exact ⟨pair.1, pair.2, replica?_eq_some_iff.mp found⟩

end Names

/-- A raw name some line of which reads as the name of a replica tells the name of the container: the
    service and the number of the first such line, read with the longest service.  Otherwise the label
    names it, if there is one that is not empty, and if not the raw name does.  This is what comes of
    searching for the pattern of replicas: it is found exactly in the former case, and then it
    captures that service and that number. -/
theorem nameOf_meets_specification (labels : Entries) (raw : String) :
    ((∃ line ∈ nameLines raw, Reads line) →
      ∃ service number, TellsReplica (withoutSlash raw.toList) service number) ∧
    (∀ service number, TellsReplica (withoutSlash raw.toList) service number →
      nameOf labels (.text raw) = .ok (.text (String.ofList (service ++ '-' :: number)))) ∧
    ((∀ line ∈ nameLines raw, ¬ Reads line) →
      (∀ label, labels.get? nameLabel = some (.text label) → label ≠ "" →
        nameOf labels (.text raw) = .ok (.text label)) ∧
      (labels.get? nameLabel = none ∨ labels.get? nameLabel = some (.text "") →
        nameOf labels (.text raw) = .ok (.text (String.ofList (withoutSlash raw.toList))))) ∧
    ∃ pattern, Pattern.compile replicaSource = .ok pattern ∧
      (search pattern.options pattern.least pattern.nodes (withoutSlash raw.toList) = none ↔
        ∀ line ∈ nameLines raw, ¬ Reads line) ∧
      ∀ service number,
        (search pattern.options pattern.least pattern.nodes (withoutSlash raw.toList)).map
            capturedPair = some (some service, some number) ↔
          TellsReplica (withoutSlash raw.toList) service number := by
  refine ⟨?_, ?_, ?_, replicaPattern, compile_replicaSource, ?_, ?_⟩
  · rintro ⟨line, among, reads⟩
    exact exists_tellsReplica among reads
  · intro service number tells
    exact nameOf_of_tellsReplica tells
  · intro unread
    refine ⟨?_, ?_⟩
    · intro label present filled
      rw [nameOf_of_unread unread, Entries.getNull, present]
      simp [Value.orElse, Value.isTruthy, filled]
    · intro absent
      rw [nameOf_of_unread unread, Entries.getNull]
      rcases absent with absent | absent <;> rw [absent] <;> rfl
  · exact search_eq_none_iff
  · intro service number
    exact capturedPair_search_eq_some_iff

/-- The second line tells the name, and what looks like a number before the last one belongs to the
    service. -/
theorem nameOf_of_second_line :
    TellsReplica (withoutSlash "/web\na.1.2.b".toList) "a.1".toList "2".toList ∧
      nameOf [(.text nameLabel, .text "other")] (.text "/web\na.1.2.b") = .ok (.text "a.1-2") := by
  have tells : TellsReplica (withoutSlash "/web\na.1.2.b".toList) "a.1".toList "2".toList :=
    replica?_eq_some_iff.mp (by cbv)
  have named := (nameOf_meets_specification [(.text nameLabel, .text "other")]
    "/web\na.1.2.b").2.1 _ _ tells
  exact ⟨tells, named⟩

/-! ## Tasks of replicas -/

/-- A service that fits in a line, and a number of decimal digits. -/
structure IsReplica (service number : String) : Prop where
  line : '\n' ∉ service.toList
  filled : number ≠ ""
  decimal : ∀ c ∈ number.toList, Unicode.isDecimal c = true

/-- The raw name of a task of a replica. -/
def taskName (service number task : String) : String :=
  "/" ++ service ++ "." ++ number ++ "." ++ task

/-- The name of a replica. -/
def replicaName (service number : String) : String := service ++ "-" ++ number

/-- Where only the two points are left that belong to a number and its end, no reading has a longer
    service. -/
theorem length_le_of_readsAs {service number task service' number' task' : List Char}
    (decimal : ∀ c ∈ number, Unicode.isDecimal c = true) (whole : '.' ∉ task)
    (reads : ReadsAs (service ++ '.' :: (number ++ '.' :: task)) service' number' task') :
    service'.length ≤ service.length := by
  by_contra longer
  have digits : '.' ∉ number := by
    intro member
    have point := decimal _ member
    rw [isDecimal_point] at point
    cases point
  have behind : ('.' :: (number' ++ '.' :: task')) <:+ number ++ '.' :: task := by
    rcases List.append_eq_append_iff.mp reads.parts with ⟨more, rfl, rest⟩ | ⟨less, rfl, -⟩
    · cases more with
      | nil => simp at longer
      | cons first more =>
          obtain ⟨-, rest⟩ := List.cons.inj rest
          exact ⟨more, rest.symm⟩
    · simp at longer
  have points := behind.sublist.count_le '.'
  have one : (number ++ '.' :: task).count '.' = 1 := by
    simp [List.count_eq_zero.mpr digits, List.count_eq_zero.mpr whole]
  rw [one] at points
  simp at points

/-- The raw name of a task tells its replica, also where the service looks like the name of one. -/
theorem tellsReplica_of_task {service number task : List Char} (line : '\n' ∉ service)
    (filled : number ≠ []) (decimal : ∀ c ∈ number, Unicode.isDecimal c = true)
    (whole : '.' ∉ task) :
    TellsReplica (service ++ '.' :: (number ++ '.' :: task)) service number := by
  obtain ⟨later, pieces⟩ := exists_piecesAt (service ++ '.' :: (number ++ '.' :: task))
  rw [Text.piecesAt_eq_splitOn] at pieces
  have first : (service ++ '.' :: (number ++ '.' :: task)).takeWhile inLine
      = service ++ '.' :: (number ++ '.' :: task.takeWhile inLine) := by
    rw [List.takeWhile_append_of_pos, List.takeWhile_cons_of_pos (by decide),
      List.takeWhile_append_of_pos, List.takeWhile_cons_of_pos (by decide)]
    · intro c member
      rw [inLine, bne_iff_ne]
      rintro rfl
      simpa [isDecimal_lineFeed] using decimal _ member
    · intro c member
      rw [inLine, bne_iff_ne]
      rintro rfl
      exact line member
  have whole' : '.' ∉ task.takeWhile inLine := fun member =>
    whole ((List.takeWhile_prefix inLine).subset member)
  rw [first] at pieces
  refine ⟨[], _, later, pieces, by simp, ⟨_, rfl, filled, decimal⟩, ?_⟩
  intro service' number' task' reads
  exact length_le_of_readsAs decimal whole' reads

/-- The raw name of a task names its replica, whatever its labels are. -/
theorem nameOf_taskName (labels : Entries) {service number task : String}
    (replica : IsReplica service number) (whole : '.' ∉ task.toList) :
    nameOf labels (.text (taskName service number task))
      = .ok (.text (replicaName service number)) := by
  have filled : number.toList ≠ [] := by simpa using replica.filled
  have letters : withoutSlash (taskName service number task).toList
      = service.toList ++ '.' :: (number.toList ++ '.' :: task.toList) := by
    simp [taskName, withoutSlash]
  have tells := tellsReplica_of_task replica.line filled replica.decimal whole
  rw [← letters] at tells
  rw [nameOf_of_tellsReplica tells]
  simp [replicaName, String.ext_iff]

/-- The digits behind the last dash of the name of a replica are its number. -/
theorem takeWhile_reverse_replicaName {service number : String}
    (replica : IsReplica service number) :
    (replicaName service number).toList.reverse.takeWhile Unicode.isDecimal
      = number.toList.reverse := by
  have digits : ∀ c ∈ number.toList.reverse, Unicode.isDecimal c = true := by
    intro c member
    exact replica.decimal c (List.mem_reverse.mp member)
  have letters : (replicaName service number).toList.reverse
      = number.toList.reverse ++ '-' :: service.toList.reverse := by simp [replicaName]
  rw [letters, List.takeWhile_append_of_pos digits,
    List.takeWhile_cons_of_neg (by simp [isDecimal_dash]), List.append_nil]

/-- The name of a replica can be parted again, since its number has no dash. -/
theorem replicaName_inj {service number service' number' : String}
    (replica : IsReplica service number) (replica' : IsReplica service' number')
    (same : replicaName service number = replicaName service' number') :
    service = service' ∧ number = number' := by
  have digits : number.toList.reverse = number'.toList.reverse := by
    rw [← takeWhile_reverse_replicaName replica, same, takeWhile_reverse_replicaName replica']
  have sameNumber : number = number' := String.toList_inj.mp (List.reverse_inj.mp digits)
  subst sameNumber
  have letters := congrArg String.toList same
  simp only [replicaName, String.toList_append, List.append_left_inj] at letters
  exact ⟨String.toList_inj.mp letters, rfl⟩

/-- All tasks of a replica have one name, whatever their labels and identifiers are, so that every
    filter decides alike on them.  The tasks of another replica have another name. -/
theorem replica_keeps_its_name (labels labels' : Entries) {service number task task' : String}
    (replica : IsReplica service number) (whole : '.' ∉ task.toList) (whole' : '.' ∉ task'.toList) :
    nameOf labels (.text (taskName service number task))
        = .ok (.text (replicaName service number)) ∧
      nameOf labels' (.text (taskName service number task'))
        = .ok (.text (replicaName service number)) ∧
      (∀ filter : NameFilter,
        (nameOf labels (.text (taskName service number task))).bind filter.decide
          = (nameOf labels' (.text (taskName service number task'))).bind filter.decide) ∧
      ∀ other number', IsReplica other number' → (service, number) ≠ (other, number') →
        ∀ labels'' task'', '.' ∉ task''.toList →
          nameOf labels'' (.text (taskName other number' task''))
            ≠ nameOf labels (.text (taskName service number task)) := by
  have named := nameOf_taskName labels replica whole
  have named' := nameOf_taskName labels' replica whole'
  refine ⟨named, named', ?_, ?_⟩
  · intro filter
    rw [named, named']
  · intro other number' replica' distinct labels'' task'' whole'' shared
    rw [nameOf_taskName labels'' replica' whole'', named] at shared
    have same : replicaName service number = replicaName other number' := by
      injection shared with shared
      injection shared with shared
      exact shared.symm
    obtain ⟨rfl, rfl⟩ := replicaName_inj replica replica' same
    exact distinct rfl

/-- The service itself looks like the name of a task, its number is written in two scripts, and one of
    the tasks has a line feed in its identifier. -/
theorem replica_keeps_its_name_of_example :
    nameOf [] (.text "/a.1.b.3٤.x") = .ok (.text "a.1.b-3٤") ∧
      nameOf [(.text nameLabel, .text "other")] (.text "/a.1.b.3٤.y\nz")
        = .ok (.text "a.1.b-3٤") ∧
      nameOf [] (.text "/a.1.b.3٤.x") ≠ nameOf [] (.text "/a.1.b-3.٤.x") := by
  have replica : IsReplica "a.1.b" "3٤" := ⟨by decide, by decide, List.all_eq_true.mp (by decide)⟩
  have other : IsReplica "a.1.b-3" "٤" := ⟨by decide, by decide, List.all_eq_true.mp (by decide)⟩
  have whole : '.' ∉ "x".toList := by decide
  have whole' : '.' ∉ "y\nz".toList := by decide
  obtain ⟨named, named', -, apart⟩ :=
    replica_keeps_its_name [] [(.text nameLabel, .text "other")] replica whole whole'
  have distinct := apart "a.1.b-3" "٤" other (by decide) [] "x" whole
  exact ⟨named, named', distinct.symm⟩

end ContainerWatch.Identity
