import ContainerWatch.Pattern.Search

/-!
# Matching as a list of ends

A part of a pattern hands the states in which it can end to what follows, one after the other, until
that succeeds.  What comes of it is known from the list of these ends and from what follows answers
to each of them.  An attempt that fails leaves limits of groups behind, which are forgotten again
because they come after those that were set before.

This holds of parts that match single characters, of greedy repetitions of such a part and of lazy
ones, and of the groups around them, where each group is entered once and in the order of the numbers.
-/

namespace ContainerWatch.Pattern

namespace Place

/-- The place a number of characters further on. -/
def forward (count : Nat) (place : Place) : Place :=
  ⟨place.index + count, (place.after.take count).reverse ++ place.before, place.after.drop count⟩

@[simp] theorem forward_zero (place : Place) : place.forward 0 = place := by simp [forward]

@[simp] theorem forward_index (count : Nat) (place : Place) :
    (place.forward count).index = place.index + count := rfl

@[simp] theorem forward_after (count : Nat) (place : Place) :
    (place.forward count).after = place.after.drop count := rfl

theorem next?_of_after {place : Place} {c : Char} {rest : List Char}
    (letters : place.after = c :: rest) : place.next? = some (c, place.forward 1) := by
  simp [next?, forward, letters]

theorem next?_of_end {place : Place} (done : place.after = []) : place.next? = none := by
  simp [next?, done]

theorem forward_forward (first second : Nat) (place : Place) :
    (place.forward first).forward second = place.forward (first + second) := by
  simp [forward, List.take_add, Nat.add_assoc]

def text (place : Place) : List Char := place.before.reverse ++ place.after

/-- Whether a place counts the characters in front of it. -/
def Counts (place : Place) : Prop := place.index = place.before.length

theorem text_forward (count : Nat) (place : Place) : (place.forward count).text = place.text := by
  simp [text, forward]

theorem Counts.forward {place : Place} {count : Nat} (counts : place.Counts)
    (inside : count ≤ place.after.length) : (place.forward count).Counts := by
  have counted : place.index = place.before.length := counts
  simp only [Counts, Place.forward, List.length_append, List.length_reverse, List.length_take]
  omega

theorem text_between {place : Place} (counts : place.Counts) (skipped count : Nat) :
    (place.text.drop (place.index + skipped)).take count
      = (place.after.drop skipped).take count := by
  have counted : place.index = place.before.reverse.length := by
    rw [List.length_reverse]
    exact counts
  rw [text, counted, List.drop_append, List.drop_eq_nil_of_le (Nat.le_add_right _ _)]
  simp

end Place

/-! ## Attempts -/

/-- An attempt from a state with some limits has a result: it succeeds in that state, or it fails and
    leaves those limits as they were. -/
def Attempt.Yields (attempt : Attempt) (marks : Marks) : Option Matching → Prop
  | some done => attempt = .matched done
  | none => ∃ left, attempt = .failed left ∧ marks <+: left.marks

namespace Attempt

variable {attempt : Attempt} {marks : Marks} {result : Option Matching}

/-- An attempt that leaves more limits as they were leaves fewer as they were. -/
theorem Yields.mono {fewer : Marks} (yields : attempt.Yields marks result)
    (begun : fewer <+: marks) : attempt.Yields fewer result := by
  cases result with
  | some done => exact yields
  | none =>
      obtain ⟨left, failed, kept⟩ := yields
      exact ⟨left, failed, begun.trans kept⟩

theorem yields_failed {left : Matching} (kept : marks <+: left.marks) :
    (Attempt.failed left).Yields marks none := ⟨left, rfl, kept⟩

end Attempt

/-- The limits of a state that goes on after a failure are what they were. -/
theorem Matching.resumed_marks {state left : Matching} (kept : state.marks <+: left.marks) :
    (state.resumed false left).marks = state.marks := by
  simp only [Matching.resumed, Bool.false_eq_true, if_false]
  exact (List.prefix_iff_eq_take.mp kept).symm

/-! ## What follows, and ends -/

/-- The limits and the place with which a part can end. -/
abbrev End := Marks × Place

/-- What follows answers every state that has a number of limits: by a result that depends on its
    limits and its place alone. -/
def Answers (entered : Nat) (follow : Follow) (answer : End → Option Matching) : Prop :=
  ∀ state, state.marks.length = entered →
    (follow state).Yields state.marks (answer (state.marks, state.place))

/-- What follows answers a state that begins here as it does one at that place. -/
theorem Answers.headHere {entered : Nat} {follow : Follow} {answer : End → Option Matching}
    {state : Matching} (answers : Answers entered follow answer)
    (entries : state.marks.length = entered) :
    (follow state.headHere).Yields state.marks (answer (state.marks, state.place)) :=
  answers state.headHere entries

/-- A part offers its ends to what follows, in their order, until that succeeds.  It is begun with a
    number of limits and ends with a number of them. -/
def Offers (entered left : Nat) (matcher : Matcher) (ends : End → List End) : Prop :=
  ∀ follow answer, Answers left follow answer →
    Answers entered (fun state => matcher state follow) fun start => (ends start).findSome? answer

theorem answers_finish (entered : Nat) :
    Answers entered Follow.finish fun (marks, place) => some ⟨place, place, marks⟩ := by
  intro state _
  rfl

theorem offers_nil (entered : Nat) (options : Options) (ahead : Lead) :
    Offers entered entered (matchSequence options false ahead []) fun start => [start] := by
  intro follow answer answers state counted
  have yields := answers state counted
  simpa [matchSequence] using yields

/-- The first answer to several lists in a row is the first of their first answers. -/
theorem findSome?_flatMap {α β γ : Type} (lists : α → List β) (answer : β → Option γ)
    (items : List α) :
    (items.flatMap lists).findSome? answer
      = items.findSome? fun item => (lists item).findSome? answer := by
  induction items with
  | nil => rfl
  | cons item items ih =>
      rw [List.flatMap_cons, List.findSome?_append, ih, List.findSome?_cons]
      cases (lists item).findSome? answer <;> rfl

/-- A sequence ends where its rest ends that begins where its first part ends. -/
theorem offers_cons {entered between left : Nat} {options : Options} {ahead : Lead} {node : Node}
    {nodes : List Node} {first rest : End → List End}
    (head : Offers entered between
      (matchNode options false (sequenceLead options ahead nodes) node) first)
    (tail : Offers between left (matchSequence options false ahead nodes) rest) :
    Offers entered left (matchSequence options false ahead (node :: nodes))
      fun start => (first start).flatMap rest := by
  intro follow answer answers state counted
  have yields := head _ _ (tail follow answer answers) state counted
  simp only [findSome?_flatMap]
  exact yields

def charEnds (accepts : Char → Bool) : End → List End := fun (marks, place) =>
  match place.after with
  | c :: _ => if accepts c then [(marks, place.forward 1)] else []
  | [] => []

theorem offers_matchChar (entered : Nat) (accepts : Char → Bool) :
    Offers entered entered (matchChar accepts) (charEnds accepts) := by
  intro follow answer answers state counted
  simp only [matchChar, charEnds]
  cases letters : state.place.after with
  | nil =>
      rw [Place.next?_of_end letters]
      exact Attempt.yields_failed List.prefix_rfl
  | cons c rest =>
      rw [Place.next?_of_after letters]
      by_cases accepted : accepts c = true
      · have yields := answers { state with place := state.place.forward 1 } counted
        simpa [accepted] using yields
      · have rejected : accepts c = false := by simpa using accepted
        have failed : (Attempt.failed state).Yields state.marks none :=
          Attempt.yields_failed List.prefix_rfl
        simpa [rejected] using failed

/-! ## Greedy repetitions -/

/-- How many characters of a class a text may begin with, the greatest number first. -/
def runLengths (accepts : Char → Bool) : List Char → List Nat
  | [] => [0]
  | c :: rest => (if accepts c then (runLengths accepts rest).map (· + 1) else []) ++ [0]

theorem le_length_of_mem_runLengths {accepts : Char → Bool} {text : List Char} {count : Nat}
    (member : count ∈ runLengths accepts text) : count ≤ text.length := by
  induction text generalizing count with
  | nil =>
      rw [runLengths, List.mem_singleton] at member
      simp [member]
  | cons c rest ih =>
      rcases List.mem_append.mp member with longer | last
      · by_cases accepted : accepts c = true
        · rw [if_pos accepted] at longer
          obtain ⟨shorter, among, rfl⟩ := List.mem_map.mp longer
          have bound := ih among
          simpa using bound
        · rw [if_neg accepted] at longer
          cases longer
      · rw [List.mem_singleton.mp last]
        exact Nat.zero_le _

/-- The ends of a greedy repetition of at least a number of characters of a class, after some that
    have been counted already. -/
def runEnds (accepts : Char → Bool) (least counted : Nat) : End → List End := fun (marks, place) =>
  ((runLengths accepts place.after).filter fun count => least ≤ counted + count).map fun count =>
    (marks, place.forward count)

/-- The ends from a character of the class on: those from behind it, and then the one in front of
    it. -/
theorem runEnds_of_accepted {accepts : Char → Bool} {least counted : Nat} {marks : Marks}
    {place : Place} {c : Char} {rest : List Char} (letters : place.after = c :: rest)
    (accepted : accepts c = true) :
    runEnds accepts least counted (marks, place)
      = runEnds accepts least (counted + 1) (marks, place.forward 1)
        ++ if least ≤ counted then [(marks, place)] else [] := by
  have behind : (place.forward 1).after = rest := by simp [letters]
  have shifted : ((fun count => decide (least ≤ counted + count)) ∘ fun count => count + 1)
      = fun count => decide (least ≤ counted + 1 + count) := by
    funext count
    rw [Function.comp_apply, Nat.add_comm count 1, Nat.add_assoc]
  have moved : ((fun count => (marks, place.forward count)) ∘ fun count => count + 1)
      = fun count => (marks, (place.forward 1).forward count) := by
    funext count
    rw [Function.comp_apply, Place.forward_forward, Nat.add_comm]
  have here : (([0] : List Nat).filter fun count => decide (least ≤ counted + count)).map
        (fun count => (marks, place.forward count))
      = if least ≤ counted then [(marks, place)] else [] := by
    by_cases enough : least ≤ counted <;> simp [enough]
  simp only [runEnds, letters, runLengths, accepted, if_true, List.filter_append, List.map_append,
    List.filter_map, List.map_map, behind, shifted, moved, here]

/-- Where no character of the class stands the repetition ends at once, if it may. -/
theorem runEnds_of_rejected {accepts : Char → Bool} {least counted : Nat} {marks : Marks}
    {place : Place} (rejected : ∀ c ∈ place.after.head?, accepts c = false) :
    runEnds accepts least counted (marks, place)
      = if least ≤ counted then [(marks, place)] else [] := by
  have stays : runLengths accepts place.after = [0] := by
    cases letters : place.after with
    | nil => rfl
    | cons c rest =>
        have refused : accepts c = false := rejected c (by simp [letters])
        simp [runLengths, refused]
  by_cases enough : least ≤ counted <;> simp [runEnds, stays, enough]

/-- A repetition that may go on here does so after the attempt to pass more characters. -/
theorem yields_orGoOn {entered : Nat} {follow : Follow} {answer : End → Option Matching}
    {attempt : Attempt} {farther : Option Matching} {state : Matching} (enough : Bool)
    (answers : Answers entered follow answer) (entries : state.marks.length = entered)
    (yields : attempt.Yields state.marks farther) :
    (orGoOn false .unknown enough state follow attempt).Yields state.marks
      (farther.or (if enough then answer (state.marks, state.place) else none)) := by
  cases farther with
  | some done =>
      have matched : attempt = .matched done := yields
      rw [matched]
      rfl
  | none =>
      obtain ⟨left, rfl, kept⟩ := yields
      have same : (state.resumed false left).marks = state.marks := Matching.resumed_marks kept
      cases enough with
      | false => exact Attempt.yields_failed (same ▸ List.prefix_rfl)
      | true =>
          have here := answers (state.resumed false left).headHere (by rw [← entries, ← same]; rfl)
          have placed : (state.resumed false left).headHere.place = state.place := rfl
          have marked : (state.resumed false left).headHere.marks = state.marks := same
          rw [placed, marked] at here
          simp only [orGoOn, Lead.rejects, Bool.not_true, Bool.or_self, Bool.false_eq_true, if_false,
            if_true, Option.none_or]
          cases answered : answer (state.marks, state.place) with
          | some done =>
              rw [answered] at here
              have matched : follow (state.resumed false left).headHere = .matched done := here
              rw [matched]
              rfl
          | none =>
              rw [answered] at here
              obtain ⟨later, failed, kept⟩ := here
              rw [failed]
              exact Attempt.yields_failed (Matching.resumed_marks kept ▸ List.prefix_rfl)

section Run

variable {single : Single} {least room counted : Nat} {state : Matching} {follow : Follow}

/-- A repetition passes no character that is not of its class. -/
theorem matchRun_of_rejected
    (rejected : ∀ c ∈ state.place.after.head?, single.accepts c = false) :
    matchRun single false .unknown least room counted state follow
      = orGoOn false .unknown (least ≤ counted) state follow (.failed (single.counted state)) := by
  cases room with
  | zero => rw [matchRun]
  | succ room =>
      rw [matchRun]
      cases letters : state.place.after with
      | nil => rw [Place.next?_of_end letters]
      | cons c rest =>
          have refused : single.accepts c = false := rejected c (by simp [letters])
          rw [Place.next?_of_after letters]
          simp [refused]

/-- A repetition first passes a character of its class, if there is room. -/
theorem matchRun_of_accepted {c : Char} {rest : List Char}
    (letters : state.place.after = c :: rest) (accepted : single.accepts c = true) :
    matchRun single false .unknown least (room + 1) counted state follow
      = orGoOn false .unknown (least ≤ counted) state follow
          (matchRun single false .unknown least room (counted + 1)
            { state with place := state.place.forward 1 } follow) := by
  rw [matchRun, Place.next?_of_after letters]
  simp [accepted]

/-- Where no character of its class stands a greedy repetition can end at that place only. -/
theorem yields_matchRun_of_rejected {entered : Nat} {answer : End → Option Matching}
    (answers : Answers entered follow answer) (entries : state.marks.length = entered)
    (rejected : ∀ c ∈ state.place.after.head?, single.accepts c = false) :
    (matchRun single false .unknown least room counted state follow).Yields state.marks
      ((runEnds single.accepts least counted (state.marks, state.place)).findSome? answer) := by
  have keeps : state.marks <+: (single.counted state).marks := by
    unfold Single.counted
    split <;> exact List.prefix_rfl
  have here := yields_orGoOn (least ≤ counted) answers entries (Attempt.yields_failed keeps)
  rw [matchRun_of_rejected rejected, runEnds_of_rejected rejected]
  by_cases last : least ≤ counted <;> simpa [last] using here

/-- A greedy repetition offers its ends from the farthest to the nearest. -/
theorem yields_matchRun {entered : Nat} {answer : End → Option Matching}
    (answers : Answers entered follow answer) (entries : state.marks.length = entered)
    (enough : state.place.after.length ≤ room) :
    (matchRun single false .unknown least room counted state follow).Yields state.marks
      ((runEnds single.accepts least counted (state.marks, state.place)).findSome? answer) := by
  induction room generalizing counted state with
  | zero =>
      have done : state.place.after = [] := List.eq_nil_of_length_eq_zero (Nat.le_zero.mp enough)
      exact yields_matchRun_of_rejected answers entries (by simp [done])
  | succ room ih =>
      by_cases stops : ∀ c ∈ state.place.after.head?, single.accepts c = false
      · exact yields_matchRun_of_rejected answers entries stops
      · obtain ⟨c, first, accepted⟩ :
            ∃ c, state.place.after.head? = some c ∧ single.accepts c = true := by simpa using stops
        obtain ⟨rest, letters⟩ := List.head?_eq_some_iff.mp first
        let farther : Matching := { state with place := state.place.forward 1 }
        have shorter : farther.place.after.length ≤ room := by
          rw [letters, List.length_cons] at enough
          simpa [farther, letters] using Nat.le_of_succ_le_succ enough
        have yields : (matchRun single false .unknown least room (counted + 1) farther
            follow).Yields farther.marks _ := ih entries shorter
        have here := yields_orGoOn (least ≤ counted) answers entries yields
        rw [matchRun_of_accepted letters accepted, runEnds_of_accepted letters accepted,
          List.findSome?_append]
        by_cases last : least ≤ counted <;> simpa [last, farther] using here

end Run

/-- A greedy repetition of a part that matches one character each time. -/
theorem offers_matchChars (entered least : Nat) (single : Single) :
    Offers entered entered (matchChars single false .unknown .greedy least none)
      (runEnds single.accepts least 0) := by
  intro follow answer answers state counted
  simp only [matchChars]
  by_cases short : state.place.after.length < least
  · have none : runEnds single.accepts least 0 (state.marks, state.place) = [] := by
      simp only [runEnds, List.map_eq_nil_iff, List.filter_eq_nil_iff, decide_eq_true_eq]
      intro count member
      have bound := le_length_of_mem_runLengths member
      omega
    rw [if_pos short, none]
    exact Attempt.yields_failed List.prefix_rfl
  · rw [if_neg short]
    exact yields_matchRun answers counted (Nat.le_refl _)

/-! ## Lazy repetitions -/

/-- The ends of a lazy repetition of a class, the nearest first. -/
def fewEnds (accepts : Char → Bool) : End → List End := fun (marks, place) =>
  (List.range ((place.after.takeWhile accepts).length + 1)).map fun count =>
    (marks, place.forward count)

/-- The ends from a character of the class on: the one in front of it, and then those from behind
    it. -/
theorem fewEnds_of_accepted {accepts : Char → Bool} {marks : Marks} {place : Place} {c : Char}
    {rest : List Char} (letters : place.after = c :: rest) (accepted : accepts c = true) :
    fewEnds accepts (marks, place)
      = (marks, place) :: fewEnds accepts (marks, place.forward 1) := by
  have behind : (place.forward 1).after = rest := by simp [letters]
  simp only [fewEnds, letters, behind, List.takeWhile_cons_of_pos accepted, List.length_cons]
  rw [List.range_succ_eq_map, List.map_cons, List.map_map, Place.forward_zero]
  congr 1
  refine List.map_congr_left fun count _ => ?_
  rw [Function.comp_apply, Place.forward_forward, Nat.add_comm 1]

theorem fewEnds_of_rejected {accepts : Char → Bool} {marks : Marks} {place : Place}
    (rejected : ∀ c ∈ place.after.head?, accepts c = false) :
    fewEnds accepts (marks, place) = [(marks, place)] := by
  have stays : place.after.takeWhile accepts = [] := by
    cases letters : place.after with
    | nil => rfl
    | cons c rest =>
        have refused : accepts c = false := rejected c (by simp [letters])
        exact List.takeWhile_cons_of_neg (by simp [refused])
  simp [fewEnds, stays]

section Few

variable {single : Single} {room : Nat} {state left : Matching} {follow : Follow}

theorem matchFewChars_of_matched {done : Matching} (ended : follow state.headHere = .matched done) :
    matchFewChars single false room state follow = .matched done := by
  rw [matchFewChars, ended]

theorem matchFewChars_of_rejected (failed : follow state.headHere = .failed left)
    (rejected : ∀ c ∈ state.place.after.head?, single.accepts c = false) :
    matchFewChars single false room state follow = .failed (state.resumed false left).headHere := by
  rw [matchFewChars, failed]
  cases letters : state.place.after with
  | nil => cases room <;> simp [Place.next?_of_end letters]
  | cons c rest =>
      have refused : single.accepts c = false := rejected c (by simp [letters])
      cases room <;> simp [Place.next?_of_after letters, refused]

/-- A lazy repetition passes a character of its class after what follows has failed, if there is
    room. -/
theorem matchFewChars_of_accepted {c : Char} {rest : List Char}
    (failed : follow state.headHere = .failed left) (letters : state.place.after = c :: rest)
    (accepted : single.accepts c = true) :
    matchFewChars single false (room + 1) state follow
      = matchFewChars single false room
          { (state.resumed false left).headHere with place := state.place.forward 1 } follow := by
  rw [matchFewChars, failed, Place.next?_of_after letters]
  simp [accepted]

/-- Where no character of its class stands a lazy repetition can end at that place only. -/
theorem yields_matchFewChars_of_rejected {entered : Nat} {answer : End → Option Matching}
    (answers : Answers entered follow answer) (entries : state.marks.length = entered)
    (rejected : ∀ c ∈ state.place.after.head?, single.accepts c = false) :
    (matchFewChars single false room state follow).Yields state.marks
      ((fewEnds single.accepts (state.marks, state.place)).findSome? answer) := by
  have here := answers.headHere entries
  rw [fewEnds_of_rejected rejected, List.findSome?_singleton]
  cases answered : answer (state.marks, state.place) with
  | some done =>
      rw [answered] at here
      exact matchFewChars_of_matched here
  | none =>
      rw [answered] at here
      obtain ⟨left, failed, kept⟩ := here
      rw [matchFewChars_of_rejected failed rejected]
      exact Attempt.yields_failed (Matching.resumed_marks kept ▸ List.prefix_rfl)

/-- A lazy repetition offers its ends from the nearest to the farthest. -/
theorem yields_matchFewChars {entered : Nat} {answer : End → Option Matching}
    (answers : Answers entered follow answer) (entries : state.marks.length = entered)
    (enough : state.place.after.length ≤ room) :
    (matchFewChars single false room state follow).Yields state.marks
      ((fewEnds single.accepts (state.marks, state.place)).findSome? answer) := by
  induction room generalizing state with
  | zero =>
      have done : state.place.after = [] := List.eq_nil_of_length_eq_zero (Nat.le_zero.mp enough)
      exact yields_matchFewChars_of_rejected answers entries (by simp [done])
  | succ room ih =>
      by_cases stops : ∀ c ∈ state.place.after.head?, single.accepts c = false
      · exact yields_matchFewChars_of_rejected answers entries stops
      · obtain ⟨c, first, accepted⟩ :
            ∃ c, state.place.after.head? = some c ∧ single.accepts c = true := by simpa using stops
        obtain ⟨rest, letters⟩ := List.head?_eq_some_iff.mp first
        have here := answers.headHere entries
        rw [fewEnds_of_accepted letters accepted, List.findSome?_cons]
        cases answered : answer (state.marks, state.place) with
        | some done =>
            rw [answered] at here
            exact matchFewChars_of_matched here
        | none =>
            rw [answered] at here
            obtain ⟨left, failed, kept⟩ := here
            let farther : Matching :=
              { (state.resumed false left).headHere with place := state.place.forward 1 }
            have marked : farther.marks = state.marks := Matching.resumed_marks kept
            have shorter : farther.place.after.length ≤ room := by
              rw [letters, List.length_cons] at enough
              simpa [farther, letters] using Nat.le_of_succ_le_succ enough
            have counted : farther.marks.length = entered := by rw [marked, entries]
            have yields := ih counted shorter
            rw [matchFewChars_of_accepted failed letters accepted]
            rwa [marked] at yields

end Few

/-- A lazy repetition of a part that matches one character each time. -/
theorem offers_matchFewChars (entered : Nat) (single : Single) (ahead : Lead) :
    Offers entered entered (matchChars single false ahead .lazy 0 none)
      (fewEnds single.accepts) := by
  intro follow answer answers state counted
  simp only [matchChars, Nat.not_lt_zero, if_false, Place.pass]
  exact yields_matchFewChars answers counted (Nat.le_succ _)

/-! ## Groups -/

theorem Marks.put_length (marks : Marks) (place : Nat) :
    marks.put marks.length place = marks ++ [some place] := by
  simp [Marks.put]

/-- The ends of a group: those of its body, between the limits of the group. -/
def groupEnds (body : End → List End) : End → List End := fun (marks, place) =>
  (body (marks ++ [some place.index], place)).map fun (marks, place) =>
    (marks ++ [some place.index], place)

/-- A group without groups inside, whose number says how many limits come before its own. -/
theorem offers_group {number : Nat} {options on off : Options} {ahead : Lead} {body : List Node}
    {ends : End → List End}
    (inner : Offers (2 * number + 1) (2 * number + 1)
      (matchSequence (options.within on off) false .unknown body) ends) :
    Offers (2 * number) (2 * number + 2)
      (matchNode options false ahead (.group (some (number + 1)) on off body)) (groupEnds ends) := by
  intro follow answer answers state counted
  have leaves : Answers (2 * number + 1) (fun state => follow (state.leave (number + 1)))
      fun (marks, place) => answer (marks ++ [some place.index], place) := by
    intro state counted
    have index : 2 * (number + 1) - 1 = state.marks.length := by omega
    have last : (state.leave (number + 1)).marks = state.marks ++ [some state.place.index] := by
      rw [Matching.leave, index, Marks.put_length]
    have yields := answers (state.leave (number + 1)) (by rw [last]; simp [counted])
    rw [last] at yields
    exact yields.mono (List.prefix_append _ _)
  have index : 2 * (number + 1) - 2 = state.marks.length := by omega
  have first : (state.enter (number + 1)).marks = state.marks ++ [some state.place.index] := by
    rw [Matching.enter, index, Marks.put_length]
  have yields := inner _ _ leaves (state.enter (number + 1)) (by rw [first]; simp [counted])
  rw [first] at yields
  rw [matchNode]
  simp only [groupEnds, List.findSome?_map]
  exact yields.mono (List.prefix_append _ _)

/-! ## Searching -/

/-- The state in which a match has come to an end. -/
def Matching.ofEnd : End → Matching := fun (marks, place) => ⟨place, place, marks⟩

/-- A search finds the first end at the first place from which there is one. -/
theorem searchFrom_succ {left : Nat} {matcher : Matcher} {ends : End → List End}
    (offers : Offers 0 left matcher ends) (count : Nat) (place : Place) :
    searchFrom matcher .unknown (count + 1) place
      = ((ends ([], place)).head?.map Matching.ofEnd).or
          (place.next?.bind fun (_, next) => searchFrom matcher .unknown count next) := by
  have yields := offers _ _ (answers_finish left) (.start place) rfl
  have first : (ends ([], place)).findSome? (fun (marks, place) => some ⟨place, place, marks⟩)
      = (ends ([], place)).head?.map Matching.ofEnd := by
    cases ends ([], place) <;> rfl
  simp only [Matching.start] at yields
  rw [first] at yields
  simp only [searchFrom, Lead.rejects, Bool.false_eq_true, if_false]
  cases found : (ends ([], place)).head?.map Matching.ofEnd with
  | some done =>
      rw [found] at yields
      have matched : matcher ⟨place, place, []⟩ Follow.finish = .matched done := yields
      simp [Matching.start, matched]
  | none =>
      rw [found] at yields
      obtain ⟨later, failed, _⟩ := yields
      simp [Matching.start, failed]

/-- The ends from a number of places, of which a given one is the first. -/
def endsFrom (ends : End → List End) (count : Nat) (place : Place) : List End :=
  (List.range (min count (place.after.length + 1))).flatMap fun skipped =>
    ends ([], place.forward skipped)

/-- The ends from one more place: those from the first one, and those from the places behind it. -/
theorem endsFrom_succ (ends : End → List End) (count : Nat) (place : Place) :
    endsFrom ends (count + 1) place = ends ([], place) ++
      (place.next?.map fun (_, next) => endsFrom ends count next).getD [] := by
  cases letters : place.after with
  | nil =>
      rw [Place.next?_of_end letters]
      simp [endsFrom, letters, List.range_succ]
  | cons c rest =>
      rw [Place.next?_of_after letters]
      simp only [endsFrom, letters, List.length_cons, Nat.add_min_add_right,
        List.range_succ_eq_map, List.flatMap_cons, List.flatMap_map, Place.forward_zero,
        Place.forward_after, Place.forward_forward, Option.map_some, Option.getD_some,
        List.drop_one, List.tail_cons, Nat.add_comm 1]

/-- A search finds the first of the ends from the places at which it begins a match. -/
theorem searchFrom_eq_head? {left : Nat} {matcher : Matcher} {ends : End → List End}
    (offers : Offers 0 left matcher ends) (count : Nat) (place : Place) :
    searchFrom matcher .unknown count place
      = (endsFrom ends count place).head?.map Matching.ofEnd := by
  induction count generalizing place with
  | zero =>
      rw [endsFrom, Nat.zero_min]
      rfl
  | succ count ih =>
      rw [searchFrom_succ offers, endsFrom_succ, List.head?_append]
      cases next : place.next? with
      | none => simp
      | some step => simp [ih, Option.map_or]

/-- There is an end from one of the places exactly if there is one from a place inside the text. -/
theorem isEmpty_endsFrom_eq_false_iff {ends : End → List End} {count : Nat} {place : Place} :
    (endsFrom ends count place).isEmpty = false ↔
      ∃ skipped, skipped < count ∧ skipped ≤ place.after.length ∧
        ends ([], place.forward skipped) ≠ [] := by
  rw [← Bool.not_eq_true, List.isEmpty_iff, endsFrom, List.flatMap_eq_nil_iff]
  simp only [List.mem_range, Nat.lt_min, Nat.lt_succ_iff, Classical.not_forall, exists_prop,
    and_assoc, ne_eq]

end ContainerWatch.Pattern
