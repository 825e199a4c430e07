import ContainerWatch.Identity
import ContainerWatch.Proofs.Text
import Mathlib.Data.List.TakeWhile

/-!
# Names of replicas

A line may read as the name of a replica in several ways: a service, a number and a task with points
between them, where the number consists of decimal digits.  The way that counts is the one with the
longest service, and the line that counts is the first that reads so at all.  The recursion of
`replicaIn?` finds just that way, and `replica?` finds it in that line.
-/

namespace ContainerWatch.Identity

/-- A line reads as the name of a replica of a service, with a number and a task. -/
structure ReadsAs (line service number task : List Char) : Prop where
  parts : line = service ++ '.' :: (number ++ '.' :: task)
  filled : number ≠ []
  decimal : ∀ c ∈ number, Unicode.isDecimal c = true

/-- A line reads as the name of a replica in some way. -/
def Reads (line : List Char) : Prop := ∃ service number task, ReadsAs line service number task

/-- The reading of a line with the longest service. -/
structure ReadsLongest (line service number : List Char) : Prop where
  reads : ∃ task, ReadsAs line service number task
  longest : ∀ service' number' task', ReadsAs line service' number' task' →
    service'.length ≤ service.length

/-- The service and the number that a name tells: those of the longest reading of its first line that
    reads as the name of a replica. -/
def TellsReplica (name service number : List Char) : Prop :=
  ∃ earlier line later, name.splitOn '\n' = earlier ++ line :: later ∧
    (∀ other ∈ earlier, ¬ Reads other) ∧ ReadsLongest line service number

/-! ## Numbers -/

theorem isDecimal_point : Unicode.isDecimal '.' = false := by decide

theorem isDecimal_dash : Unicode.isDecimal '-' = false := by decide

theorem isDecimal_lineFeed : Unicode.isDecimal '\n' = false := by decide

theorem takeWhile_isDecimal {number : List Char} (decimal : ∀ c ∈ number, Unicode.isDecimal c = true)
    (task : List Char) : (number ++ '.' :: task).takeWhile Unicode.isDecimal = number := by
  rw [List.takeWhile_append_of_pos decimal,
    List.takeWhile_cons_of_neg (by simp [isDecimal_point]), List.append_nil]

/-- The number at the start of a text: as many decimal digits as there are, if that is some and a
    point ends them. -/
theorem replicaNumber?_eq_some_iff {text number : List Char} :
    replicaNumber? text = some number ↔
      ∃ task, text = number ++ '.' :: task ∧ number ≠ [] ∧
        ∀ c ∈ number, Unicode.isDecimal c = true := by
  constructor
  · intro found
    have ⟨behind, parted⟩ := List.takeWhile_prefix (l := text) Unicode.isDecimal
    have rest : text.drop (text.takeWhile Unicode.isDecimal).length = behind := by
      conv => lhs; arg 2; rw [← parted]
      exact List.drop_left
    simp only [replicaNumber?, rest, Bool.and_eq_true, Bool.not_eq_true',
      List.isEmpty_eq_false_iff, beq_iff_eq, Option.ite_none_right_eq_some,
      Option.some.injEq] at found
    obtain ⟨⟨filled, point⟩, rfl⟩ := found
    obtain ⟨task, rfl⟩ := List.head?_eq_some_iff.mp point
    exact ⟨task, parted.symm, filled, fun c member => List.mem_takeWhile_imp member⟩
  · rintro ⟨task, rfl, filled, decimal⟩
    simp [replicaNumber?, takeWhile_isDecimal decimal, filled]

/-- A text holds the same number at its start as its first line does. -/
theorem replicaNumber?_takeWhile (text : List Char) :
    replicaNumber? (text.takeWhile (· != '\n')) = replicaNumber? text := by
  refine Option.ext fun number => ?_
  simp only [replicaNumber?_eq_some_iff]
  constructor
  · rintro ⟨task, parts, filled, decimal⟩
    obtain ⟨later, parted⟩ := List.takeWhile_prefix (l := text) (· != '\n')
    refine ⟨task ++ later, ?_, filled, decimal⟩
    rw [← parted, parts, List.append_assoc, List.cons_append]
  · rintro ⟨task, rfl, filled, decimal⟩
    refine ⟨task.takeWhile (· != '\n'), ?_, filled, decimal⟩
    have passed : ∀ c ∈ number, (c != '\n') = true := by
      intro c member
      rw [bne_iff_ne]
      rintro rfl
      simpa [isDecimal_lineFeed] using decimal _ member
    rw [List.takeWhile_append_of_pos passed, List.takeWhile_cons_of_pos (by decide)]

/-! ## Lines -/

/-- A line reads with an empty service if a point begins it and a number follows. -/
theorem readsAs_nil_iff {c : Char} {rest number task : List Char} :
    ReadsAs (c :: rest) [] number task ↔
      c = '.' ∧ rest = number ++ '.' :: task ∧ number ≠ [] ∧
        ∀ c ∈ number, Unicode.isDecimal c = true := by
  constructor
  · rintro ⟨parts, filled, decimal⟩
    obtain ⟨point, rest⟩ := List.cons.inj parts
    exact ⟨point, rest, filled, decimal⟩
  · rintro ⟨rfl, rfl, filled, decimal⟩
    exact ⟨rfl, filled, decimal⟩

theorem readsAs_cons_iff {c first : Char} {rest service number task : List Char} :
    ReadsAs (c :: rest) (first :: service) number task ↔
      c = first ∧ ReadsAs rest service number task := by
  constructor
  · rintro ⟨parts, filled, decimal⟩
    obtain ⟨same, parts⟩ := List.cons.inj parts
    exact ⟨same, parts, filled, decimal⟩
  · rintro ⟨rfl, parts, filled, decimal⟩
    exact ⟨congrArg (c :: ·) parts, filled, decimal⟩

theorem isSome_replicaIn?_of_readsAs {line service number task : List Char}
    (reads : ReadsAs line service number task) : (replicaIn? line).isSome := by
  induction line generalizing service with
  | nil => cases service <;> cases reads.parts
  | cons c rest ih =>
      rw [replicaIn?]
      cases inRest : replicaIn? rest with
      | some pair => rfl
      | none =>
          cases service with
          | nil =>
              obtain ⟨rfl, parts⟩ := readsAs_nil_iff.mp reads
              rw [if_pos rfl, replicaNumber?_eq_some_iff.mpr ⟨task, parts⟩]
              rfl
          | cons first service =>
              have found := ih (readsAs_cons_iff.mp reads).2
              rw [inRest] at found
              cases found

/-- What is found in a line is its reading with the longest service. -/
theorem readsLongest_of_replicaIn? {line service number : List Char}
    (found : replicaIn? line = some (service, number)) : ReadsLongest line service number := by
  induction line generalizing service with
  | nil => cases found
  | cons c rest ih =>
      rw [replicaIn?] at found
      cases inRest : replicaIn? rest with
      | some pair =>
          obtain ⟨behind, number'⟩ := pair
          rw [inRest] at found
          obtain ⟨rfl, rfl⟩ : c :: behind = service ∧ number' = number := by simpa using found
          obtain ⟨⟨task, reads⟩, longest⟩ := ih inRest
          refine ⟨⟨task, readsAs_cons_iff.mpr ⟨rfl, reads⟩⟩, ?_⟩
          intro other number' task' reads'
          cases other with
          | nil => exact Nat.zero_le _
          | cons first other =>
              exact Nat.succ_le_succ (longest other number' task' (readsAs_cons_iff.mp reads').2)
      | none =>
          simp only [inRest, Option.ite_none_right_eq_some, Option.map_eq_some_iff,
            Prod.mk.injEq] at found
          obtain ⟨point, number', held, rfl, rfl⟩ := found
          obtain ⟨task, parts⟩ := replicaNumber?_eq_some_iff.mp held
          refine ⟨⟨task, readsAs_nil_iff.mpr ⟨point, parts⟩⟩, ?_⟩
          intro other number'' task' reads'
          cases other with
          | nil => exact Nat.le_refl _
          | cons first other =>
              have some := isSome_replicaIn?_of_readsAs (readsAs_cons_iff.mp reads').2
              rw [inRest] at some
              cases some

theorem replicaIn?_eq_none_iff {line : List Char} : replicaIn? line = none ↔ ¬ Reads line := by
  constructor
  · rintro missed ⟨service, number, task, reads⟩
    have found := isSome_replicaIn?_of_readsAs reads
    rw [missed] at found
    cases found
  · intro unread
    cases found : replicaIn? line with
    | none => rfl
    | some pair =>
        obtain ⟨task, reads⟩ := (readsLongest_of_replicaIn? found).reads
        exact absurd ⟨pair.1, pair.2, task, reads⟩ unread

theorem ReadsAs.unique {line service number task service' number' task' : List Char}
    (reads : ReadsAs line service number task) (reads' : ReadsAs line service' number' task')
    (sameLength : service.length = service'.length) : service = service' ∧ number = number' := by
  have parts := reads.parts.symm.trans reads'.parts
  obtain ⟨sameService, behind⟩ := List.append_inj parts sameLength
  obtain ⟨-, behind⟩ := List.cons.inj behind
  have sameNumber : number = number' := by
    rw [← takeWhile_isDecimal reads.decimal task, behind, takeWhile_isDecimal reads'.decimal]
  exact ⟨sameService, sameNumber⟩

/-- What is found in a line is the reading with the longest service, whatever that is. -/
theorem replicaIn?_eq_some_iff {line service number : List Char} :
    replicaIn? line = some (service, number) ↔ ReadsLongest line service number := by
  constructor
  · exact readsLongest_of_replicaIn?
  · rintro ⟨⟨task, reads⟩, longest⟩
    obtain ⟨⟨service', number'⟩, found⟩ :=
      Option.isSome_iff_exists.mp (isSome_replicaIn?_of_readsAs reads)
    obtain ⟨⟨task', reads'⟩, longest'⟩ := readsLongest_of_replicaIn? found
    have sameLength : service.length = service'.length :=
      Nat.le_antisymm (longest' _ _ _ reads) (longest _ _ _ reads')
    obtain ⟨rfl, rfl⟩ := reads.unique reads' sameLength
    exact found

/-! ## Names -/

theorem replica?_eq_some_iff {name service number : List Char} :
    replica? name = some (service, number) ↔ TellsReplica name service number := by
  rw [replica?, Text.piecesAt_eq_splitOn, List.findSome?_eq_some_iff]
  simp only [replicaIn?_eq_some_iff, replicaIn?_eq_none_iff]
  constructor
  · rintro ⟨earlier, line, later, lines, longest, unread⟩
    exact ⟨earlier, line, later, lines, unread, longest⟩
  · rintro ⟨earlier, line, later, lines, unread, longest⟩
    exact ⟨earlier, line, later, lines, longest, unread⟩

theorem replica?_eq_none_iff {name : List Char} :
    replica? name = none ↔ ∀ line ∈ name.splitOn '\n', ¬ Reads line := by
  rw [replica?, Text.piecesAt_eq_splitOn, List.findSome?_eq_none_iff]
  simp only [replicaIn?_eq_none_iff]

end ContainerWatch.Identity
