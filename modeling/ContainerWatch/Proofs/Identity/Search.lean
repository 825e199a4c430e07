import ContainerWatch.Pattern
import ContainerWatch.Proofs.Identity.Replicas
import ContainerWatch.Proofs.Pattern.Ends
import Mathlib

/-!
# The pattern of replicas

The names of replicas are those that fit a search pattern.  Its first match begins in the first line
that reads as the name of a replica, at the start of that line, since whatever matches in the middle
of a line matches from its start as well.  The greedy first group then takes the longest service.  So
what the first two groups capture is just what `replica?` finds.
-/

namespace ContainerWatch.Identity

open Pattern

/-- The text of the pattern that the names of replicas fit. -/
def replicaSource : String := "(.*)\\.(\\d+)\\.(.*)"

/-- As many characters of a line as possible. -/
def lineNode : Node := .repetition .greedy 0 none [.anyChar]

/-- As many decimal digits as possible, and at least one. -/
def digitsNode : Node := .repetition .greedy 1 none [.set false [.kind .digit false]]

def pointNode : Node := .char 46

/-- The pattern that the names of replicas fit. -/
def replicaPattern : Pattern where
  source := replicaSource
  nodes := [
    .group (some 1) {} {} [lineNode], pointNode,
    .group (some 2) {} {} [digitsNode], pointNode,
    .group (some 3) {} {} [lineNode]]
  options := { unicode := true }
  least := 3

theorem compile_replicaSource : Pattern.compile replicaSource = .ok replicaPattern := by cbv

/-! ## The ends of its parts -/

/-- A character that does not end a line. -/
abbrev inLine (c : Char) : Bool := c != '\n'

theorem offers_lineNode (entered : Nat) :
    Offers entered entered (matchSequence { unicode := true } false .unknown [lineNode])
      (runEnds inLine 0 0) := by
  have run : Offers entered entered (matchNode { unicode := true } false .unknown lineNode)
      (runEnds inLine 0 0) := offers_matchChars entered 0 ⟨inLine, false⟩
  simpa using offers_cons run (offers_nil entered { unicode := true } .unknown)

theorem offers_digitsNode (entered : Nat) :
    Offers entered entered (matchSequence { unicode := true } false .unknown [digitsNode])
      (runEnds Unicode.isDecimal 1 0) := by
  have accepts : setMatches { unicode := true } false [.kind .digit false] = Unicode.isDecimal := by
    funext c
    simp [setMatches, ClassItem.holds, CharKind.holds]
  have run : Offers entered entered (matchNode { unicode := true } false .unknown digitsNode)
      (runEnds Unicode.isDecimal 1 0) := by
    have offers := offers_matchChars entered 1
      ⟨setMatches { unicode := true } false [.kind .digit false], false⟩
    rw [accepts] at offers
    rw [digitsNode, matchNode, singleOf?, Node.single?, accepts]
    exact offers
  simpa using offers_cons run (offers_nil entered { unicode := true } .unknown)

theorem offers_charNode (entered : Nat) (ahead : Lead) (c : Char) :
    Offers entered entered (matchNode { unicode := true } false ahead (.char c.toNat))
      (charEnds (· == c)) := by
  have accepts : charMatches { unicode := true } c.toNat = (· == c) := by
    funext other
    simp [charMatches, Char.toNat_inj, beq_eq_decide]
  have offers := offers_matchChar entered (charMatches { unicode := true } c.toNat)
  rw [accepts] at offers
  rw [matchNode, accepts]
  exact offers

theorem offers_pointNode (entered : Nat) (ahead : Lead) :
    Offers entered entered (matchNode { unicode := true } false ahead pointNode)
      (charEnds (· == '.')) := offers_charNode entered ahead '.'

theorem offers_lineGroup (number : Nat) (ahead : Lead) :
    Offers (2 * number) (2 * number + 2)
      (matchNode { unicode := true } false ahead (.group (some (number + 1)) {} {} [lineNode]))
      (groupEnds (runEnds inLine 0 0)) := offers_group (offers_lineNode _)

theorem offers_digitsGroup (number : Nat) (ahead : Lead) :
    Offers (2 * number) (2 * number + 2)
      (matchNode { unicode := true } false ahead (.group (some (number + 1)) {} {} [digitsNode]))
      (groupEnds (runEnds Unicode.isDecimal 1 0)) := offers_group (offers_digitsNode _)

/-- The ends of the task behind a place. -/
def taskEnds (start : End) : List End :=
  (groupEnds (runEnds inLine 0 0) start).flatMap fun behind => [behind]

/-- The ends of a point, a number, a point and a task behind a place. -/
def numberEnds (start : End) : List End :=
  (charEnds (· == '.') start).flatMap fun behind =>
    (groupEnds (runEnds Unicode.isDecimal 1 0) behind).flatMap fun behind =>
      (charEnds (· == '.') behind).flatMap taskEnds

/-- The ends of the whole pattern. -/
def replicaEnds (start : End) : List End :=
  (groupEnds (runEnds inLine 0 0) start).flatMap numberEnds

/-- The pattern ends where its parts end one after the other. -/
theorem offers_replicaPattern :
    Offers 0 6 (matchSequence replicaPattern.options false .unknown replicaPattern.nodes)
      replicaEnds :=
  offers_cons (offers_lineGroup 0 _) <| offers_cons (offers_pointNode 2 _) <|
    offers_cons (offers_digitsGroup 1 _) <| offers_cons (offers_pointNode 4 _) <|
      offers_cons (offers_lineGroup 2 _) (offers_nil 6 _ _)

/-! ## The first end -/

/-- The number behind a point with which a text begins. -/
def numberBehindPoint? : List Char → Option (List Char)
  | '.' :: rest => replicaNumber? rest
  | _ => none

theorem numberBehindPoint?_of_ne {text : List Char} (other : text.head? ≠ some '.') :
    numberBehindPoint? text = none := by
  unfold numberBehindPoint?
  split
  · exact absurd rfl other
  · rfl

theorem runLengths_eq_cons (accepts : Char → Bool) (text : List Char) :
    ∃ fewer, runLengths accepts text = (text.takeWhile accepts).length :: fewer ∧
      ∀ count ∈ fewer, count < (text.takeWhile accepts).length := by
  induction text with
  | nil => exact ⟨[], rfl, by simp⟩
  | cons c rest ih =>
      by_cases accepted : accepts c = true
      · obtain ⟨fewer, lengths, shorter⟩ := ih
        refine ⟨fewer.map (· + 1) ++ [0], ?_, ?_⟩
        · rw [runLengths, if_pos accepted, lengths, List.takeWhile_cons_of_pos accepted]
          rfl
        · intro count member
          rw [List.takeWhile_cons_of_pos accepted, List.length_cons]
          rcases List.mem_append.mp member with longer | last
          · obtain ⟨less, among, rfl⟩ := List.mem_map.mp longer
            exact Nat.succ_lt_succ (shorter less among)
          · rw [List.mem_singleton.mp last]
            exact Nat.succ_pos _
      · refine ⟨[], ?_, by simp⟩
        rw [runLengths, if_neg accepted, List.takeWhile_cons_of_neg accepted]
        rfl

theorem head?_drop_of_lt_digits {text : List Char} {count : Nat}
    (inside : count < (text.takeWhile Unicode.isDecimal).length) :
    (text.drop count).head? ≠ some '.' := by
  obtain ⟨behind, parted⟩ := List.takeWhile_prefix (l := text) Unicode.isDecimal
  intro point
  rw [List.head?_drop, ← parted, List.getElem?_append_left inside] at point
  have decimal := List.mem_takeWhile_imp (List.mem_of_getElem? point)
  rw [isDecimal_point] at decimal
  cases decimal

/-- Among the ways to pass some digits only that with all of them can be followed by a point. -/
theorem findSome?_digits {α : Type} {text : List Char} {answer : Nat → Option α}
    (ends : ∀ count, (text.drop count).head? ≠ some '.' → answer count = none) :
    ((runLengths Unicode.isDecimal text).filter fun count => 1 ≤ 0 + count).findSome? answer
      = (replicaNumber? text).bind fun number => answer number.length := by
  obtain ⟨fewer, lengths, shorter⟩ := runLengths_eq_cons Unicode.isDecimal text
  have inside : (fewer.filter fun count => decide (1 ≤ 0 + count)).findSome? answer = none := by
    rw [List.findSome?_eq_none_iff]
    intro count member
    exact ends count (head?_drop_of_lt_digits (shorter count (List.mem_filter.mp member).1))
  rw [lengths, List.filter_cons]
  by_cases empty : text.takeWhile Unicode.isDecimal = []
  · have number : replicaNumber? text = none := by simp [replicaNumber?, empty]
    rw [if_neg (by simp [empty]), inside, number]
    rfl
  · have enough : 1 ≤ 0 + (text.takeWhile Unicode.isDecimal).length := by
      rw [Nat.zero_add]
      exact List.length_pos_iff.mpr empty
    rw [if_pos (decide_eq_true enough), List.findSome?_cons, inside]
    by_cases point : (text.drop (text.takeWhile Unicode.isDecimal).length).head? = some '.'
    · have number : replicaNumber? text = some (text.takeWhile Unicode.isDecimal) := by
        simp [replicaNumber?, empty, point]
      rw [number, Option.bind_some]
      cases answer (text.takeWhile Unicode.isDecimal).length <;> rfl
    · have number : replicaNumber? text = none := by
        simp only [List.head?_drop] at point
        simp [replicaNumber?, point]
      rw [number, ends _ point]
      rfl

/-- In a line the longest service is looked for behind its first character before an empty one. -/
theorem replicaIn?_cons (c : Char) (rest : List Char) :
    replicaIn? (c :: rest)
      = ((replicaIn? rest).map fun (service, number) => (c :: service, number)).or
          ((numberBehindPoint? (c :: rest)).map fun number => ([], number)) := by
  rw [replicaIn?]
  cases replicaIn? rest with
  | some pair => rfl
  | none =>
      by_cases point : c = '.'
      · rw [if_pos point, point]
        rfl
      · rw [if_neg point, numberBehindPoint?_of_ne (by simpa using point)]
        rfl

/-- A number behind a point lies in the line of the point. -/
theorem numberBehindPoint?_takeWhile (c : Char) (rest : List Char) :
    numberBehindPoint? (c :: rest.takeWhile inLine) = numberBehindPoint? (c :: rest) := by
  by_cases point : c = '.'
  · subst point
    exact replicaNumber?_takeWhile rest
  · rw [numberBehindPoint?_of_ne (by simpa using point),
      numberBehindPoint?_of_ne (by simpa using point)]

/-- The first of the ways to pass some characters of a line that a point and a number follow, the
    longest of them first, is what is found in the line. -/
theorem findSome?_line (text : List Char) :
    ((runLengths inLine text).findSome? fun count =>
        (numberBehindPoint? (text.drop count)).map fun number => (text.take count, number))
      = replicaIn? (text.takeWhile inLine) := by
  induction text with
  | nil => rfl
  | cons c rest ih =>
      by_cases within : inLine c = true
      · rw [List.takeWhile_cons_of_pos within, replicaIn?_cons, ← ih, runLengths, if_pos within,
          List.findSome?_append, List.findSome?_map, List.map_findSome?,
          numberBehindPoint?_takeWhile]
        congr 1
        · congr 1
          funext count
          simp [Option.map_map, Function.comp_def]
        · cases found : numberBehindPoint? (c :: rest) <;> simp [found]
      · have ended : c = '\n' := by simpa [inLine] using within
        subst ended
        rfl

/-- The first answer to the ends of a group around a run. -/
theorem findSome?_groupEnds {α : Type} (accepts : Char → Bool) (least : Nat) (marks : Marks)
    (place : Place) (answer : End → Option α) :
    (groupEnds (runEnds accepts least 0) (marks, place)).findSome? answer
      = ((runLengths accepts place.after).filter fun count => least ≤ 0 + count).findSome?
          fun count => answer (marks ++ [some place.index, some (place.index + count)],
            place.forward count) := by
  simp [groupEnds, runEnds, List.findSome?_map, Function.comp_def]

theorem head?_charEnds (c : Char) (marks : Marks) (place : Place) (rest : End → List End) :
    ((charEnds (· == c) (marks, place)).flatMap rest).head?
      = if place.after.head? = some c then (rest (marks, place.forward 1)).head? else none := by
  cases letters : place.after with
  | nil => simp [charEnds, letters]
  | cons first text =>
      by_cases same : first = c <;> simp [charEnds, letters, same]

/-- The task goes to the end of the line. -/
def taskEnd (marks : Marks) (place : Place) : End :=
  let last := place.forward (place.after.takeWhile inLine).length
  (marks ++ [some place.index, some last.index], last)

theorem head?_taskEnds (marks : Marks) (place : Place) :
    (taskEnds (marks, place)).head? = some (taskEnd marks place) := by
  obtain ⟨fewer, lengths, -⟩ := runLengths_eq_cons inLine place.after
  rw [taskEnds, List.head?_flatMap, findSome?_groupEnds, lengths]
  simp [taskEnd]

/-- Where a point, a number, a point and a task first end. -/
def numberEnd (marks : Marks) (place : Place) (number : List Char) : End :=
  let first := place.forward 1
  let last := first.forward number.length
  taskEnd (marks ++ [some first.index, some last.index]) (last.forward 1)

/-- A point, a number, a point and a task end as the number behind a point says. -/
theorem head?_numberEnds (marks : Marks) (place : Place) :
    (numberEnds (marks, place)).head?
      = (numberBehindPoint? place.after).map (numberEnd marks place) := by
  rw [numberEnds, head?_charEnds]
  by_cases point : place.after.head? = some '.'
  · obtain ⟨text, letters⟩ := List.head?_eq_some_iff.mp point
    have behind : (place.forward 1).after = text := by simp [letters]
    have unended : ∀ count, ((place.forward 1).after.drop count).head? ≠ some '.' →
        ((charEnds (· == '.') (marks ++ [some (place.forward 1).index,
          some ((place.forward 1).index + count)], (place.forward 1).forward count)).flatMap
            taskEnds).head? = none := by
      intro count other
      rw [head?_charEnds, Place.forward_after, if_neg other]
    rw [if_pos point, List.head?_flatMap, findSome?_groupEnds, findSome?_digits unended, behind,
      letters]
    cases found : replicaNumber? text with
    | none => simp [numberBehindPoint?, found]
    | some number =>
        obtain ⟨task, rfl, -⟩ := replicaNumber?_eq_some_iff.mp found
        have ended : (((place.forward 1).forward number.length).after).head? = some '.' := by
          rw [Place.forward_after, behind, List.drop_left]
          rfl
        rw [Option.bind_some, head?_charEnds, if_pos ended, head?_taskEnds]
        simp [numberBehindPoint?, found, numberEnd]
  · rw [if_neg point, numberBehindPoint?_of_ne point]
    rfl

/-- Where the whole pattern first ends, by the service and the number. -/
def replicaEnd (place : Place) (service number : List Char) : End :=
  let last := place.forward service.length
  numberEnd [some place.index, some last.index] last number

/-- The pattern first ends where the reading of the rest of the line with the longest service does. -/
theorem head?_replicaEnds (place : Place) :
    (replicaEnds ([], place)).head?
      = (replicaIn? (place.after.takeWhile inLine)).map fun (service, number) =>
          replicaEnd place service number := by
  have all : ((runLengths inLine place.after).filter fun count => decide (0 ≤ 0 + count))
      = runLengths inLine place.after := List.filter_eq_self.mpr (by simp)
  rw [replicaEnds, List.head?_flatMap, findSome?_groupEnds, all, ← findSome?_line,
    List.map_findSome?]
  congr 1
  funext count
  rw [head?_numberEnds, Place.forward_after]
  cases found : numberBehindPoint? (place.after.drop count) with
  | none => simp [found]
  | some number =>
      have inside : count ≤ place.after.length := by
        by_contra beyond
        rw [List.drop_eq_nil_of_le (Nat.le_of_not_le beyond)] at found
        cases found
      simp [found, replicaEnd, Nat.min_eq_left inside]

/-! ## What is captured -/

/-- A group whose limits are set captures what stands between them. -/
theorem captured?_of_limits {state : Matching} {number : Nat} (first count : Nat)
    (entered : state.marks[2 * number - 2]? = some (some first))
    (left : state.marks[2 * number - 1]? = some (some (first + count))) :
    state.captured? number = some ((state.place.text.drop first).take count) := by
  simp [Matching.captured?, Marks.span?, entered, left, Place.text]

theorem text_replicaEnd (place : Place) (service number : List Char) :
    (replicaEnd place service number).2.text = place.text := by
  simp only [replicaEnd, numberEnd, taskEnd, Place.text_forward]

/-- The first two groups capture the service and the number. -/
theorem captured?_replicaEnd {place : Place} {service number task : List Char}
    (counts : place.Counts) (letters : place.after = service ++ '.' :: (number ++ '.' :: task)) :
    (Matching.ofEnd (replicaEnd place service number)).captured? 1 = some service ∧
      (Matching.ofEnd (replicaEnd place service number)).captured? 2 = some number := by
  have text : (Matching.ofEnd (replicaEnd place service number)).place.text = place.text :=
    text_replicaEnd place service number
  constructor
  · rw [captured?_of_limits (place.index + 0) service.length rfl rfl, text,
      Place.text_between counts, letters]
    simp
  · rw [captured?_of_limits (place.index + (service.length + 1)) number.length rfl rfl, text,
      Place.text_between counts, letters]
    simp

/-! ## The search -/

/-- What the first two groups capture. -/
def capturedPair (state : Matching) : Option (List Char) × Option (List Char) :=
  (state.captured? 1, state.captured? 2)

theorem exists_piecesAt (text : List Char) :
    ∃ later, Text.piecesAt '\n' text = text.takeWhile inLine :: later := by
  induction text with
  | nil => exact ⟨[], rfl⟩
  | cons c rest ih =>
      obtain ⟨later, pieces⟩ := ih
      rw [Text.piecesAt]
      by_cases ended : c = '\n'
      · subst ended
        exact ⟨_, rfl⟩
      · rw [if_neg ended, pieces, List.takeWhile_cons_of_pos (by simpa using ended)]
        exact ⟨later, rfl⟩

/-- A name tells what its first line does, and otherwise what it tells without its first
    character. -/
theorem replica?_cons (c : Char) (rest : List Char) :
    replica? (c :: rest) = (replicaIn? ((c :: rest).takeWhile inLine)).or (replica? rest) := by
  obtain ⟨later, pieces⟩ := exists_piecesAt rest
  by_cases ended : c = '\n'
  · subst ended
    rfl
  · have line : (c :: rest).takeWhile inLine = c :: rest.takeWhile inLine :=
      List.takeWhile_cons_of_pos (by simpa using ended)
    have shorter : replicaIn? (c :: rest.takeWhile inLine) = none →
        replicaIn? (rest.takeWhile inLine) = none := by
      intro missed
      rw [replicaIn?_cons, Option.or_eq_none_iff, Option.map_eq_none_iff] at missed
      exact missed.1
    simp only [replica?, Text.piecesAt, if_neg ended, pieces, line, List.findSome?_cons]
    cases found : replicaIn? (c :: rest.takeWhile inLine) with
    | some pair => rfl
    | none =>
        rw [shorter found]
        rfl

theorem three_le_length {name service number : List Char}
    (found : replica? name = some (service, number)) : 3 ≤ name.length := by
  induction name with
  | nil => cases found
  | cons c rest ih =>
      rw [replica?_cons, Option.or_eq_some_iff] at found
      rcases found with first | ⟨-, later⟩
      · obtain ⟨task, parts, filled, -⟩ := (readsLongest_of_replicaIn? first).reads
        have line := congrArg List.length parts
        have within := (List.takeWhile_prefix (l := c :: rest) inLine).length_le
        have some := List.length_pos_iff.mpr filled
        simp only [List.length_append, List.length_cons] at line within ⊢
        omega
      · exact Nat.le_succ_of_le (ih later)

/-- From a place on the search finds what the rest of the name tells. -/
theorem capturedPair_searchFrom {count : Nat} {place : Place} (counts : place.Counts)
    (enough : place.after.length ≤ count + 2) :
    (searchFrom (matchSequence replicaPattern.options false .unknown replicaPattern.nodes)
        .unknown count place).map capturedPair
      = (replica? place.after).map fun (service, number) => (some service, some number) := by
  induction count generalizing place with
  | zero =>
      cases found : replica? place.after with
      | none => rfl
      | some pair =>
          have long := three_le_length found
          omega
  | succ count ih =>
      rw [searchFrom_succ offers_replicaPattern, head?_replicaEnds]
      cases letters : place.after with
      | nil =>
          rw [Place.next?_of_end letters]
          rfl
      | cons c rest =>
          have behind : (place.forward 1).after = rest := by simp [letters]
          rw [Place.next?_of_after letters, replica?_cons]
          cases found : replicaIn? ((c :: rest).takeWhile inLine) with
          | none =>
              have next : (place.forward 1).Counts := counts.forward (by simp [letters])
              have fewer : (place.forward 1).after.length ≤ count + 2 := by
                rw [letters, List.length_cons] at enough
                rw [behind]
                omega
              have going := ih next fewer
              rw [behind] at going
              exact going
          | some pair =>
              obtain ⟨service, number⟩ := pair
              obtain ⟨task, parts, -⟩ := (readsLongest_of_replicaIn? found).reads
              obtain ⟨later, parted⟩ := List.takeWhile_prefix (l := c :: rest) inLine
              have whole : place.after = service ++ '.' :: (number ++ '.' :: (task ++ later)) := by
                rw [letters, ← parted, parts]
                simp
              have captured := captured?_replicaEnd counts whole
              simp [capturedPair, captured]

/-- Where the pattern is first found in a name, its first two groups capture what the name tells. -/
theorem capturedPair_search (name : List Char) :
    (search replicaPattern.options replicaPattern.least replicaPattern.nodes name).map capturedPair
      = (replica? name).map fun (service, number) => (some service, some number) := by
  have unknown : startLead replicaPattern.options replicaPattern.least replicaPattern.nodes
      = .unknown := rfl
  have places : startCount replicaPattern.options replicaPattern.least name.length
      replicaPattern.nodes = name.length + 2 - 3 := rfl
  rw [search, unknown, places]
  by_cases short : name.length < replicaPattern.least
  · rw [if_pos short]
    cases found : replica? name with
    | none => rfl
    | some pair => exact absurd (three_le_length found) (Nat.not_le_of_lt short)
  · rw [if_neg short]
    have counts : (Place.start name).Counts := rfl
    have enough : (Place.start name).after.length ≤ name.length + 2 - 3 + 2 := by
      have letters : (Place.start name).after = name := rfl
      rw [letters]
      omega
    exact capturedPair_searchFrom counts enough

/-- The pattern is found nowhere in a name exactly if the name tells no replica. -/
theorem search_eq_none_iff {name : List Char} :
    search replicaPattern.options replicaPattern.least replicaPattern.nodes name = none ↔
      ∀ line ∈ name.splitOn '\n', ¬ Reads line := by
  rw [← replica?_eq_none_iff, ← Option.map_eq_none_iff (f := capturedPair), capturedPair_search,
    Option.map_eq_none_iff]

theorem capturedPair_search_eq_some_iff {name service number : List Char} :
    (search replicaPattern.options replicaPattern.least replicaPattern.nodes name).map capturedPair
        = some (some service, some number) ↔ TellsReplica name service number := by
  rw [capturedPair_search, ← replica?_eq_some_iff]
  simp [Option.map_eq_some_iff]

end ContainerWatch.Identity
