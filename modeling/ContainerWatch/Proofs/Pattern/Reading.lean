import ContainerWatch.Proofs.Pattern.Flaws
import Mathlib

/-!
# Reading modest patterns

A pattern is modest if nowhere in it a brace or a comma stands in front of ten digits, no group in it
looks behind, and no group of options has that of the wide repertoire among them.  What is left of a
modest pattern is modest as well.  This is what every step of reading keeps, and a step that rejects
what is left does so for a flaw in its form: its counts are not too large, it looks behind nowhere, and
it does not ask for the wide repertoire.
-/

set_option mvcgen.warning false

namespace ContainerWatch.Pattern

open Std.Do Read

/-! ## Modest patterns -/

/-- The letters of options with which a text begins. -/
def optionRun (text : List Char) : List Char := text.takeWhile fun c => (optionNamed? c).isSome

/-- A text that does not begin with a brace or a comma and ten digits, with a group that looks behind,
    or with a group of options and that of the wide repertoire among them. -/
structure BeginsModestly (text : List Char) : Prop where
  counts : ['\x7b'] <+: text ∨ [','] <+: text →
    (text.tail.takeWhile isDigitChar).length < 10
  looks : ¬ ['(', '?', '<', '='] <+: text ∧ ¬ ['(', '?', '<', '!'] <+: text
  options : ['(', '?'] <+: text → 'u' ∉ optionRun (text.drop 2)

instance (text : List Char) : Decidable (BeginsModestly text) :=
  decidable_of_iff
    ((['\x7b'] <+: text ∨ [','] <+: text → (text.tail.takeWhile isDigitChar).length < 10) ∧
      (¬ ['(', '?', '<', '='] <+: text ∧ ¬ ['(', '?', '<', '!'] <+: text) ∧
      (['(', '?'] <+: text → 'u' ∉ optionRun (text.drop 2)))
    ⟨fun ⟨counts, looks, options⟩ => ⟨counts, looks, options⟩,
      fun ⟨counts, looks, options⟩ => ⟨counts, looks, options⟩⟩

/-- A text that begins so nowhere. -/
def IsModest (text : List Char) : Prop := ∀ tail ∈ text.tails, BeginsModestly tail

instance (text : List Char) : Decidable (IsModest text) :=
  inferInstanceAs (Decidable (∀ tail ∈ text.tails, BeginsModestly tail))

section Modest

variable {text tail digits : List Char} {c : Char}

theorem IsModest.begins (modest : IsModest text) : BeginsModestly text :=
  modest text ((List.mem_tails _ _).mpr List.suffix_rfl)

theorem IsModest.of_suffix (modest : IsModest text) (suffix : tail <:+ text) : IsModest tail :=
  fun _ member =>
    modest _ ((List.mem_tails _ _).mpr (((List.mem_tails _ _).mp member).trans suffix))

theorem digits_le_nine (modest : IsModest (c :: text)) (opens : c = '\x7b' ∨ c = ',') :
    (text.takeWhile isDigitChar).length ≤ 9 := by
  have counts := modest.begins.counts
  rcases opens with rfl | rfl
  · exact Nat.le_of_lt_succ (counts (.inl ⟨text, rfl⟩))
  · exact Nat.le_of_lt_succ (counts (.inr ⟨text, rfl⟩))

theorem numberOf_lt (decimal : ∀ c ∈ digits, isDigitChar c = true) :
    numberOf 10 digits < 10 ^ digits.length := by
  induction digits using List.reverseRecOn with
  | nil => decide
  | append_singleton digits last ih =>
      obtain ⟨front, back⟩ := List.forall_mem_append.mp decimal
      have digit : isDigitChar last = true := back last (List.mem_singleton_self last)
      have value : last.toNat - 48 < 10 := by
        simp only [isDigitChar, Bool.and_eq_true, decide_eq_true_eq] at digit
        have high : last.toNat ≤ 57 := digit.2
        omega
      have front := ih front
      have step : numberOf 10 (digits ++ [last]) = 10 * numberOf 10 digits + (last.toNat - 48) := by
        simp [numberOf, List.foldl_append, digit]
      rw [step, List.length_append, List.length_singleton, Nat.pow_succ]
      omega

end Modest

/-! ## Steps of reading -/

/-- What is left of a pattern, the token ahead included. -/
def Source.left (source : Source) : List Char :=
  (source.next.map Token.chars).getD [] ++ source.rest

/-- What is left of the pattern is modest, and no option of a wide repertoire is set. -/
@[mk_iff]
structure Progress.IsModest (progress : Progress) : Prop where
  left : Pattern.IsModest progress.source.left
  narrow : progress.options.unicode = false

/-- What is left of a pattern stays modest when something is taken from its front. -/
theorem Progress.IsModest.of_taken {progress later : Progress} (front : List Char)
    (modest : progress.IsModest) (parts : progress.source.left = front ++ later.source.left)
    (same : later.options = progress.options) : later.IsModest :=
  ⟨modest.left.of_suffix (parts ▸ List.suffix_append _ _), same ▸ modest.narrow⟩

/-- A step of reading leads from what holds before it to what holds behind it, unless it rejects the
    pattern for its form. -/
abbrev Leads {α : Type} (before : Progress → Prop) (read : Read α)
    (after : α → Progress → Prop) : Prop :=
  ⦃fun progress => ⌜before progress⌝⦄ read
    ⦃post⟨fun value progress => ⌜after value progress⌝,
      fun error => ⌜error.cause.isMalformed = true⌝⟩⦄

/-- A step of reading keeps what is left modest, and its value has a property. -/
abbrev Tells {α : Type} (read : Read α) (property : α → Prop) : Prop :=
  Leads Progress.IsModest read fun value progress => progress.IsModest ∧ property value

/-- A step of reading keeps what is left modest. -/
abbrev Sound {α : Type} (read : Read α) : Prop :=
  Leads Progress.IsModest read fun _ => Progress.IsModest

section Rejections

variable {α : Type} {before : Assertion (.arg Progress (.except Error .pure))}
  {after : α → Assertion (.arg Progress (.except Error .pure))} {cause : Cause}

@[spec] theorem rejects_failAt (position : Nat) (malformed : cause.isMalformed = true) :
    ⦃before⦄ (failAt position cause : Read α)
      ⦃(after, fun error => ⌜error.cause.isMalformed = true⌝, ())⦄ := by
  intro progress _
  exact malformed

@[spec] theorem rejects_fail (back : Nat) (malformed : cause.isMalformed = true) :
    ⦃before⦄ (fail cause back : Read α)
      ⦃(after, fun error => ⌜error.cause.isMalformed = true⌝, ())⦄ := by
  intro progress _
  exact malformed

end Rejections

/-! ### Tokens -/

/-- A source begins with the first token of its text, unless that ends with a backslash. -/
@[spec] theorem left_ahead (chars : List Char) (index : Nat) :
    ⦃⌜True⌝⦄ Source.ahead chars index
      ⦃post⟨fun source => ⌜source.left = chars⌝,
        fun error => ⌜error.cause.isMalformed = true⌝⟩⦄ := by
  mvcgen [Source.ahead]

/-- Taking the token ahead takes its characters from what is left, and nothing else changes. -/
theorem leads_take {before : Progress → Prop} {after : Option Token → Progress → Prop}
    (taken : ∀ progress later, before progress →
      progress.source.left
        = (progress.source.next.map Token.chars).getD [] ++ later.source.left →
      later.options = progress.options → after progress.source.next later) :
    Leads before take after := by
  mvcgen [take, Source.advance]
  rename_i progress holds source left
  exact taken progress _ holds (by rw [left]; rfl) rfl

theorem leads_peek {before : Progress → Prop} :
    Leads before peek fun token progress => before progress ∧ progress.source.next = token := by
  mvcgen [peek]

/-- Accepting a character takes it from what is left, if it is ahead, and otherwise nothing changes. -/
theorem leads_accept {before : Progress → Prop} {after : Bool → Progress → Prop} (c : Char)
    (taken : ∀ progress later, before progress →
      progress.source.left = c :: later.source.left →
      later.options = progress.options → after true later)
    (kept : ∀ progress, before progress → after false progress) :
    Leads before (accept c) after := by
  refine Triple.bind _ _ leads_peek fun token => ?_
  by_cases present : token = some (.plain c)
  · have goes : Leads (fun progress => before progress ∧ progress.source.next = token) take
        fun _ => after true := by
      refine leads_take ?_
      rintro progress later ⟨holds, next⟩ parts same
      rw [next, present] at parts
      exact taken progress later holds parts same
    rw [if_pos present]
    refine Triple.bind _ _ goes fun _ => ?_
    mvcgen
  · rw [if_neg present]
    mvcgen
    rename_i progress holds
    exact kept progress holds.1

/-- Taking the token ahead leaves modest what was modest with some characters in front of it. -/
theorem leads_take_behind (front : List Char) :
    Leads (fun progress => progress.IsModest ∧ IsModest (front ++ progress.source.left)) take
      fun token progress => progress.IsModest ∧ ∀ next ∈ token,
        IsModest (front ++ next.chars ++ progress.source.left) := by
  refine leads_take ?_
  rintro progress later ⟨modest, whole⟩ parts same
  refine ⟨modest.of_taken _ parts same, ?_⟩
  intro next member
  rw [parts, Option.mem_def.mp member] at whole
  simpa using whole

theorem leads_take_next (token : Token) :
    Leads (fun progress => progress.IsModest ∧ progress.source.next = some token) take
      fun _ progress => progress.IsModest ∧ IsModest (token.chars ++ progress.source.left) := by
  refine leads_take ?_
  rintro progress later ⟨modest, next⟩ parts same
  rw [next] at parts
  exact ⟨modest.of_taken token.chars parts same, parts ▸ modest.left⟩

/-- Accepting a character leaves modest what was modest with some characters in front of it. -/
theorem leads_accept_behind (front : List Char) (c : Char) :
    Leads (fun progress => progress.IsModest ∧ IsModest (front ++ progress.source.left)) (accept c)
      fun found progress => progress.IsModest ∧
        IsModest (front ++ (bif found then [c] else []) ++ progress.source.left) := by
  refine leads_accept c ?_ ?_
  · rintro progress later ⟨modest, whole⟩ parts same
    refine ⟨modest.of_taken [c] parts same, ?_⟩
    simpa [parts] using whole
  · rintro progress ⟨modest, whole⟩
    exact ⟨modest, by simpa using whole⟩

@[spec] theorem sound_take : Sound take := by
  refine leads_take ?_
  intro progress later modest parts same
  exact modest.of_taken _ parts same

@[spec] theorem sound_peek : Sound peek := by mvcgen [peek]

@[spec] theorem sound_position : Sound position := by mvcgen [position]

@[spec] theorem sound_accept (c : Char) : Sound (accept c) := by mvcgen [accept]

/-- A run of digits that is taken from what is left is no longer than the run with which that
    begins. -/
theorem leads_takeUpTo_digits (count bound : Nat) :
    Leads
      (fun progress => progress.IsModest ∧
        (progress.source.left.takeWhile isDigitChar).length ≤ bound)
      (takeUpTo isDigitChar count)
      fun digits progress => progress.IsModest ∧ digits.length ≤ bound ∧
        ∀ c ∈ digits, isDigitChar c = true := by
  induction count generalizing bound with
  | zero =>
      mvcgen [takeUpTo]
      simp_all
  | succ count ih =>
      rw [takeUpTo]
      refine Triple.bind _ _ leads_peek fun token => ?_
      rcases token with - | c | c
      · mvcgen
        simp_all
      · by_cases digit : isDigitChar c = true
        · have goes : Leads
              (fun progress => (progress.IsModest ∧
                (progress.source.left.takeWhile isDigitChar).length ≤ bound) ∧
                  progress.source.next = some (.plain c))
              take fun _ progress => (progress.IsModest ∧
                (progress.source.left.takeWhile isDigitChar).length ≤ bound - 1) ∧ 1 ≤ bound := by
            refine leads_take ?_
            rintro progress later ⟨⟨modest, short⟩, next⟩ parts same
            have letters : progress.source.left = c :: later.source.left := by
              rw [parts, next]
              rfl
            rw [letters, List.takeWhile_cons_of_pos digit, List.length_cons] at short
            exact ⟨⟨modest.of_taken [c] letters same, by omega⟩, by omega⟩
          simp only [digit, if_true]
          refine Triple.bind _ _ goes fun _ => ?_
          have others := ih (bound - 1)
          mvcgen [others]
          all_goals grind
        · simp only [digit]
          mvcgen
          simp_all
      · mvcgen
        simp_all

/-- Digits that are taken behind a brace or a comma in a modest pattern are fewer than ten. -/
theorem leads_takeAll_digits :
    Leads
      (fun progress => progress.IsModest ∧
        (progress.source.left.takeWhile isDigitChar).length ≤ 9)
      (takeAll isDigitChar)
      fun digits progress => progress.IsModest ∧ digits.length < 10 ∧
        ∀ c ∈ digits, isDigitChar c = true := by
  have digits (count : Nat) := leads_takeUpTo_digits count 9
  mvcgen [takeAll, digits]
  all_goals grind

@[spec] theorem sound_takeUpTo (accepts : Char → Bool) (count : Nat) :
    Sound (takeUpTo accepts count) := by
  induction count with
  | zero => mvcgen [takeUpTo]
  | succ count ih => mvcgen [takeUpTo, ih]

@[spec] theorem sound_takeName (terminator : Char) (what : String) (fuel : Nat)
    (read : List Char) : Sound (takeName terminator what fuel read) := by
  induction fuel generalizing read with
  | zero =>
      mvcgen [takeName]
      exact fun _ _ => rfl
  | succ fuel ih =>
      mvcgen [takeName, ih]
      all_goals exact fun _ _ => rfl

@[spec] theorem sound_name (terminator : Char) (what : String) : Sound (name terminator what) := by
  mvcgen [name]

@[spec] theorem sound_groupCount : Sound groupCount := by mvcgen [groupCount]

@[spec] theorem sound_isClosed (number : Nat) : Sound (isClosed number) := by mvcgen [isClosed]

@[spec] theorem sound_checkLookBehind (number : Nat) : Sound (checkLookBehind number) := by
  mvcgen [checkLookBehind]
  all_goals exact fun _ _ => rfl

/-! ### Escapes and classes -/

@[spec] theorem sound_readHexEscape (letter : Char) (count : Nat) :
    Sound (readHexEscape letter count) := by
  mvcgen [readHexEscape]

@[spec] theorem sound_readNamedChar : Sound readNamedChar := by
  mvcgen [readNamedChar]
  all_goals exact fun _ _ => rfl

@[spec] theorem sound_readCodeEscape? (letter : Char) : Sound (readCodeEscape? letter) := by
  mvcgen [readCodeEscape?]

@[spec] theorem sound_readSelfEscape (letter : Char) : Sound (readSelfEscape letter) := by
  mvcgen [readSelfEscape]

@[spec] theorem sound_readClassEscape (letter : Char) : Sound (readClassEscape letter) := by
  mvcgen [readClassEscape]

@[spec] theorem tells_readReference (digits : List Char) :
    Tells (readReference digits) Node.IsNear := by
  mvcgen [readReference]
  all_goals simp_all [Cause.isMalformed]

@[spec] theorem tells_readDigitEscape (first : Char) :
    Tells (readDigitEscape first) Node.IsNear := by
  mvcgen [readDigitEscape]

@[spec] theorem tells_readEscape (letter : Char) : Tells (readEscape letter) Node.IsNear := by
  mvcgen [readEscape]

@[spec] theorem sound_readClassItem (token : Token) : Sound (readClassItem token) := by
  mvcgen [readClassItem]

@[spec] theorem sound_readClassItems (start fuel : Nat) (read : List ClassItem) :
    Sound (readClassItems start fuel read) := by
  induction fuel generalizing read with
  | zero =>
      mvcgen [readClassItems]
      exact fun _ _ => rfl
  | succ fuel ih =>
      mvcgen [readClassItems, ih]
      all_goals exact fun _ _ => rfl

@[spec] theorem tells_readClass (start : Nat) : Tells (readClass start) Node.IsNear := by
  mvcgen [readClass]
  all_goals simp_all
  split <;> simp

/-! ### Counts -/

@[spec] theorem sound_readCount (digits : List Char) (few : digits.length < 10)
    (decimal : ∀ c ∈ digits, isDigitChar c = true) : Sound (readCount digits) := by
  have short : ¬ Text.numeralLimit < digits.length := by
    rw [Text.numeralLimit]
    omega
  have small : ¬ widthLimit ≤ numberOf 10 digits := by
    have bound := numberOf_lt decimal
    have power : 10 ^ digits.length ≤ 10 ^ 9 := Nat.pow_le_pow_right (by decide) (by omega)
    rw [widthLimit]
    omega
  mvcgen [readCount]

/-- In a modest pattern the counts behind a brace are not too large. -/
theorem leads_readCounts? :
    Leads (fun progress => progress.IsModest ∧ IsModest ('\x7b' :: progress.source.left)) readCounts?
      fun _ => Progress.IsModest := by
  have accepts := leads_accept_behind []
  mvcgen [readCounts?, position, leads_takeAll_digits, accepts, -sound_accept, -sound_position]
  all_goals grind [digits_le_nine, Progress.IsModest.left, Cause.isMalformed]

theorem leads_readQuantifier? {c : Char} (opens : c = '?' ∨ c = '*' ∨ c = '+' ∨ c = '\x7b') :
    Leads (fun progress => progress.IsModest ∧ IsModest (c :: progress.source.left))
      (readQuantifier? c) fun _ => Progress.IsModest := by
  mvcgen [readQuantifier?, leads_readCounts?]
  all_goals grind

@[spec] theorem sound_readGreed : Sound readGreed := by mvcgen [readGreed]

@[spec] theorem tells_readRepetition (start least : Nat) (greatest : Option Nat)
    (read : List Node) (near : AllNear read) :
    Tells (readRepetition start least greatest read) AllNear := by
  mvcgen [readRepetition]
  all_goals simp_all [Cause.isMalformed, allNear_repeated]

/-! ### Options -/

theorem unicode_of_optionNamed? {letter : Char} {option : Options}
    (named : optionNamed? letter = some option) (other : letter ≠ 'u') :
    option.unicode = false := by
  unfold optionNamed? at named
  split at named <;> simp_all
  all_goals subst named; rfl

theorem optionRun_cons {letter : Char} {option : Options} {rest : List Char}
    (named : optionNamed? letter = some option) :
    optionRun (letter :: rest) = letter :: optionRun rest :=
  List.takeWhile_cons_of_pos (by rw [named]; rfl)

theorem tokenOption?_eq_some_iff {token : Token} {letter : Char} {option : Options} :
    tokenOption? token = some (letter, option) ↔
      token = .plain letter ∧ optionNamed? letter = some option := by
  cases token with
  | plain c =>
    simp [tokenOption?]
    grind
  | escape c => simp [tokenOption?]

/-- The wide repertoire is not among letters of options, of which the first has been taken. -/
def NoWide (letter : Char) (progress : Progress) : Prop :=
  'u' ∉ letter :: optionRun progress.source.left

/-- Behind the letter of an option there is no wide repertoire if there was none behind the letter in
    front of it. -/
theorem leads_take_option (letter : Char) :
    Leads (fun progress => progress.IsModest ∧ NoWide letter progress) take
      fun token progress => progress.IsModest ∧ ∀ next ∈ token, ∀ later option,
        tokenOption? next = some (later, option) → NoWide later progress := by
  refine leads_take ?_
  rintro progress after ⟨modest, none⟩ parts same
  refine ⟨modest.of_taken _ parts same, ?_⟩
  intro next member later _ named
  obtain ⟨rfl, turned⟩ := tokenOption?_eq_some_iff.mp named
  have letters : progress.source.left = later :: after.source.left := by
    rw [parts, Option.mem_def.mp member]
    rfl
  rw [NoWide, letters, optionRun_cons turned] at none
  exact fun wide => none (List.mem_cons_of_mem _ wide)

/-- Options that are turned on leave the wide repertoire off if its letter is not among them. -/
theorem leads_readOptionsOn (fuel : Nat) {on : Options} {letter : Char} {option : Options}
    (narrow : on.unicode = false) (named : optionNamed? letter = some option) :
    Leads (fun progress => progress.IsModest ∧ NoWide letter progress)
      (readOptionsOn fuel on letter option)
      fun result progress => progress.IsModest ∧ result.1.unicode = false := by
  induction fuel generalizing on letter option with
  | zero =>
      mvcgen [readOptionsOn]
      exact fun _ _ _ => rfl
  | succ fuel ih =>
      have narrower (progress : Progress) (none : NoWide letter progress) :
          (on.union option).unicode = false := by
        have other : letter ≠ 'u' := fun wide => none (wide ▸ List.mem_cons_self)
        simp [Options.union, narrow, unicode_of_optionNamed? named other]
      mvcgen [readOptionsOn, ih, leads_take_option, -sound_take]
      all_goals grind [Cause.isMalformed, tokenOption?_eq_some_iff]

@[spec] theorem sound_readOptionsOff (fuel : Nat) (off : Options) (letter : Char)
    (option : Options) : Sound (readOptionsOff fuel off letter option) := by
  induction fuel generalizing off letter option with
  | zero =>
      mvcgen [readOptionsOff]
      exact fun _ _ => rfl
  | succ fuel ih =>
      mvcgen [readOptionsOff, ih]
      all_goals grind [Cause.isMalformed]

/-! ### Heads of groups -/

/-- A head that does not open a look behind. -/
def Head.IsForward (head : Head) : Prop := ∀ negated, head ≠ .lookBehind negated

/-- Options of which the first has been taken, without the wide repertoire among them. -/
theorem leads_readOptions (token : Token) :
    Leads
      (fun progress => progress.IsModest ∧ ∀ letter option,
        tokenOption? token = some (letter, option) → NoWide letter progress)
      (readOptions token)
      fun head progress => progress.IsModest ∧ head.IsForward := by
  mvcgen [readOptions, leads_readOptionsOn]
  all_goals grind [Head.IsForward, Cause.isMalformed, tokenOption?_eq_some_iff,
    Progress.isModest_iff, Options.union]

@[spec] theorem sound_readGroupName (terminator : Char) : Sound (readGroupName terminator) := by
  mvcgen [readGroupName]

@[spec] theorem sound_groupNumber (chars : List Char) : Sound (groupNumber chars) := by
  mvcgen [groupNumber]

@[spec] theorem tells_readNamed : Tells readNamed Head.IsForward := by
  mvcgen [readNamed]
  all_goals grind [Head.IsForward, Cause.isMalformed]

@[spec] theorem sound_skipComment (start fuel : Nat) : Sound (skipComment start fuel) := by
  induction fuel with
  | zero =>
      mvcgen [skipComment]
      exact fun _ _ => rfl
  | succ fuel ih =>
      mvcgen [skipComment, ih]
      exact fun _ _ => rfl

@[spec] theorem sound_readConditionNumber (chars : List Char) :
    Sound (readConditionNumber chars) := by
  mvcgen [readConditionNumber]
  all_goals grind [Cause.isMalformed, Progress.isModest_iff]

@[spec] theorem tells_readCondition : Tells readCondition Head.IsForward := by
  mvcgen [readCondition]
  all_goals grind [Head.IsForward]

/-- In a group of a modest pattern there is no wide repertoire among letters of options. -/
theorem noWide_of_isModest {progress : Progress} {token : Token} {letter : Char} {option : Options}
    (modest : IsModest (['(', '?'] ++ token.chars ++ progress.source.left))
    (named : tokenOption? token = some (letter, option)) : NoWide letter progress := by
  obtain ⟨rfl, turned⟩ := tokenOption?_eq_some_iff.mp named
  have none : 'u' ∉ optionRun (letter :: progress.source.left) :=
    modest.begins.options ⟨letter :: progress.source.left, rfl⟩
  rwa [optionRun_cons turned] at none

theorem not_isModest_of_look {c : Char} (sign : c = '=' ∨ c = '!') (rest : List Char) :
    ¬ IsModest (['(', '?', '<'] ++ (Token.plain c).chars ++ rest) := by
  intro modest
  have looks := modest.begins.looks
  rcases sign with rfl | rfl
  · exact looks.1 ⟨rest, rfl⟩
  · exact looks.2 ⟨rest, rfl⟩

/-- What stands behind the parenthesis of a group in a modest pattern opens no look behind. -/
theorem leads_readHead (start : Nat) :
    Leads (fun progress => progress.IsModest ∧ IsModest ('(' :: progress.source.left))
      (readHead start) fun head progress => progress.IsModest ∧ head.IsForward := by
  unfold readHead
  refine Triple.bind _ _ (leads_accept_behind ['('] '?') fun found => ?_
  cases found with
  | false =>
      mvcgen
      grind [Head.IsForward]
  | true =>
      have second := leads_take_behind ['(', '?', '<']
      refine Triple.bind _ _ (leads_take_behind ['(', '?']) fun token => ?_
      mvcgen [leads_readOptions, second, -sound_take]
      case vc8.true.h_7.pre holds => exact ⟨holds.1, holds.2 _ rfl⟩
      case vc10.true.h_7.post.success.h_2 holds =>
        exact absurd (holds.2 _ rfl) (not_isModest_of_look (.inl rfl) _)
      case vc11.true.h_7.post.success.h_3 holds =>
        exact absurd (holds.2 _ rfl) (not_isModest_of_look (.inr rfl) _)
      case vc15.true.h_10.isTrue holds =>
        exact ⟨holds.1, fun _ _ => noWide_of_isModest (holds.2 _ rfl)⟩
      all_goals grind [Head.IsForward, Cause.isMalformed]

end ContainerWatch.Pattern
