import ContainerWatch.Proofs.Pattern.Reading
import Mathlib

/-!
# Rejections of modest patterns

A modest pattern is rejected for its form, if it is rejected.  Its groups, sequences and alternatives
are read one inside the other, each of them with less fuel than what is around it; the tree that comes
of it has no look behind that reaches too far, and the two repertoires are not both asked for.
-/

set_option mvcgen.warning false

namespace ContainerWatch.Pattern

open Std.Do Read

/-! ## The tree -/

@[spec] theorem sound_openGroup (name : Option String) : Sound (openGroup name) := by
  mvcgen [openGroup]
  all_goals grind [Cause.isMalformed, Progress.isModest_iff]

@[spec] theorem sound_closeGroup (number : Nat) (body : List Node) :
    Sound (closeGroup number body) := by
  mvcgen [closeGroup]
  all_goals grind [Progress.isModest_iff]

@[spec] theorem sound_skipLine (fuel : Nat) : Sound (skipLine fuel) := by
  induction fuel with
  | zero => mvcgen [skipLine]
  | succ fuel ih => mvcgen [skipLine, ih]

@[spec] theorem sound_closeParenthesis (start : Nat) : Sound (closeParenthesis start) := by
  mvcgen [closeParenthesis]
  exact fun _ _ => rfl

/-- Alternatives of a modest pattern are read with some fuel. -/
def SoundAlternatives (fuel : Nat) : Prop :=
  ∀ verbose top read, (∀ nodes ∈ read, AllNear nodes) →
    Tells (readAlternatives fuel verbose top read) AllNear

/-- Sequences of a modest pattern are read with some fuel. -/
def SoundSequence (fuel : Nat) : Prop :=
  ∀ verbose first read, AllNear read → Tells (readSequence fuel verbose first read) AllNear

/-- Groups of a modest pattern are read with some fuel. -/
def SoundGroup (fuel : Nat) : Prop :=
  ∀ verbose start head, head.IsForward → Tells (readGroup fuel verbose start head) Node.IsNear

section Step

variable {fuel : Nat} (alternatives : SoundAlternatives fuel) (sequence : SoundSequence fuel)
  (group : SoundGroup fuel)

include alternatives sequence in
theorem soundAlternatives_succ : SoundAlternatives (fuel + 1) := by
  unfold SoundAlternatives at alternatives ⊢
  unfold SoundSequence at sequence
  intro verbose top read near
  mvcgen [readAlternatives, alternatives, sequence]
  all_goals grind [allNear_nil, allNear_alternation]

include sequence group in
theorem soundSequence_succ : SoundSequence (fuel + 1) := by
  unfold SoundSequence at sequence ⊢
  unfold SoundGroup at group
  intro verbose first read near
  rw [readSequence]
  refine Triple.bind _ _ leads_peek fun token => ?_
  cases token with
  | none =>
      mvcgen
      grind [allNear_unwrapped, allNear_reverse_iff]
  | some token =>
      by_cases ends : token = .plain '|' ∨ token = .plain ')'
      · simp only [ends, if_true]
        mvcgen
        grind [allNear_unwrapped, allNear_reverse_iff]
      · -- A quantifier or a group is modest together with the token in front of it.
        simp only [ends, if_false]
        refine Triple.bind _ _ (leads_take_next token) fun _ => ?_
        mvcgen [position, leads_readQuantifier?, leads_readHead, sequence, group, -sound_position]
        all_goals grind [Cause.isMalformed, Head.IsForward, Token.chars, allNear_cons_iff,
          allNear_unwrapped, allNear_reverse_iff, isNear_char, isNear_anchor, isNear_anyChar]

include alternatives sequence in
theorem soundGroup_succ : SoundGroup (fuel + 1) := by
  unfold SoundAlternatives at alternatives
  unfold SoundSequence at sequence
  intro verbose start head forward
  mvcgen [readGroup, alternatives, sequence]
  all_goals grind [Cause.isMalformed, Head.IsForward, Progress.isModest_iff, allNear_nil,
    isNear_group_iff, isNear_atomic_iff, isNear_lookAhead_iff, isNear_condition_iff, isNear_reference]

end Step

/-- Alternatives, sequences and groups of a modest pattern are read, whatever the fuel is. -/
theorem sound_tree (fuel : Nat) :
    SoundAlternatives fuel ∧ SoundSequence fuel ∧ SoundGroup fuel := by
  induction fuel with
  | zero =>
      refine ⟨?_, ?_, ?_⟩
      · intro verbose top read near
        mvcgen [readAlternatives]
        simp_all
      · intro verbose first read near
        mvcgen [readSequence]
        grind [allNear_unwrapped, allNear_reverse_iff]
      · intro verbose start head forward
        mvcgen [readGroup]
  | succ fuel ih =>
      obtain ⟨alternatives, sequence, group⟩ := ih
      exact ⟨soundAlternatives_succ alternatives sequence, soundSequence_succ sequence group,
        soundGroup_succ alternatives sequence⟩

/-! ## Whole patterns -/

/-- The tree of a modest pattern is read, and has no look behind that reaches too far. -/
theorem tells_readWhole (length : Nat) :
    Tells (readWhole length) fun reading => AllNear reading.nodes := by
  have tree := (sound_tree (3 * length + 4)).1
  unfold SoundAlternatives at tree
  mvcgen [readWhole, tree]
  case vc1.a => exact List.forall_mem_nil _
  case vc3.post.success.isTrue holds options _ both =>
    have narrow : options.unicode = false := holds.1.narrow
    simp [narrow] at both

/-- What comes of a step of reading that leads somewhere. -/
theorem Leads.result {α : Type} {before : Progress → Prop} {read : Read α}
    {after : α → Progress → Prop} (leads : Leads before read after) {progress : Progress}
    (holds : before progress) :
    (∃ value later, read progress = .ok (value, later) ∧ after value later) ∨
      ∃ error, read progress = .error error ∧ error.cause.isMalformed = true := by
  have led : (wp⟦read.run progress⟧ (fun done => ⌜after done.1 done.2⌝,
      fun error => ⌜error.cause.isMalformed = true⌝, ())).down := leads progress holds
  cases result : read.run progress with
  | ok done =>
      rw [result] at led
      exact .inl ⟨done.1, done.2, result, led⟩
  | error error =>
      rw [result] at led
      exact .inr ⟨error, result, led⟩

/-- A modest pattern that is read has no look behind that reaches too far, and one that is not read is
    rejected for its form. -/
theorem leads_readPattern (chars : List Char) :
    ⦃⌜IsModest chars⌝⦄ readPattern chars
      ⦃post⟨fun reading => ⌜AllNear reading.nodes⌝,
        fun error => ⌜error.cause.isMalformed = true⌝⟩⦄ := by
  mvcgen [readPattern, Source.ofChars]
  rename_i modest source start left
  have begins : start.IsModest := ⟨left.symm ▸ modest, rfl⟩
  rcases (tells_readWhole chars.length).result begins with
    ⟨reading, later, read, -, near⟩ | ⟨error, refused, malformed⟩
  · rw [read]
    exact near
  · rw [refused]
    exact malformed

theorem isMalformed_of_formCheck {options : Options} {node : Node} {cause : Cause}
    (found : formCheck options node = some cause) : cause.isMalformed = true := by
  unfold formCheck at found
  split at found
  · split at found
    · cases found
      rfl
    · cases found
  · unfold widthError? at found
    split at found
    · cases found
      rfl
    · cases found
  · cases found

/-- A modest pattern that is rejected is rejected for its form. -/
theorem isMalformed_of_compile {source : String} {error : Error} (modest : IsModest source.toList)
    (rejected : compile source = .error error) : error.cause.isMalformed = true := by
  have led := leads_readPattern source.toList modest
  rw [compile] at rejected
  cases result : readPattern source.toList with
  | error other =>
      rw [result] at led rejected
      cases rejected
      exact led
  | ok reading =>
      rw [result] at led rejected
      have near : sequenceFlaw? reachCheck reading.nodes = none :=
        sequenceFlaw?_reachCheck_eq_none_iff.mpr led
      simp only [near, Option.or_none] at rejected
      cases found : sequenceFlaw? (formCheck reading.options) reading.nodes with
      | none =>
          rw [found] at rejected
          cases rejected
      | some cause =>
          rw [found] at rejected
          cases rejected
          obtain ⟨node, answer⟩ := exists_check_of_sequenceFlaw? _ found
          exact isMalformed_of_formCheck answer

end ContainerWatch.Pattern
