import ContainerWatch.Pattern
import ContainerWatch.Proofs.Pattern.Ends
import Mathlib.Data.List.Infix

/-!
# Patterns that are plain texts

A pattern of characters that mean nothing but themselves is read as these characters, can be compiled,
and occurs in a text exactly if it is a part of it.  Between a caret and a dollar sign it occurs in
itself only, and in itself with a line feed behind it.
-/

namespace ContainerWatch.Pattern

/-! ## Reading -/

/-- The characters that are read together with others, or as anything but one part. -/
def operators : List Char := ['.', '*', '+', '?', '\x7b', '[', '\\', '|', '(', ')']

/-- The options of a pattern that sets none. -/
abbrev usualOptions : Options := { unicode := true }

/-- The part of a pattern that any other character writes. -/
def partOf (c : Char) : Node :=
  if c = '^' then .anchor .lineStart else if c = '$' then .anchor .lineEnd else .char c.toNat

/-- A source with some characters ahead, each of which is a token. -/
structure Source.Holds (source : Source) (chars : List Char) : Prop where
  next : source.next = chars.head?.map .plain
  rest : source.rest = chars.tail

theorem Source.exists_ahead {chars : List Char} (plain : '\\' ∉ chars) (index : Nat) :
    ∃ source, Source.ahead chars index = .ok source ∧ source.Holds chars := by
  cases chars with
  | nil => exact ⟨_, rfl, rfl, rfl⟩
  | cons c rest =>
      have other : c ≠ '\\' := fun same => plain (same ▸ List.mem_cons_self)
      refine ⟨⟨some (.plain c), rest, index + 1⟩, ?_, rfl, rfl⟩
      unfold Source.ahead
      split <;> simp_all

section Reading

open Read

variable {chars : List Char} {progress : Progress}

theorem run_bind_of_ok {α β : Type} {read : Read α} {later : Progress} {value : α}
    (ran : read.run progress = .ok (value, later)) (next : α → Read β) :
    (read >>= next).run progress = (next value).run later := by
  rw [StateT.run_bind, ran]
  rfl

theorem peek_run (progress : Progress) :
    peek.run progress = .ok (progress.source.next, progress) := rfl

theorem accept_of_next_ne {c : Char} (other : progress.source.next ≠ some (.plain c)) :
    (accept c).run progress = .ok (false, progress) := by
  rw [accept, run_bind_of_ok (peek_run progress), if_neg other]
  rfl

theorem exists_take {c : Char} (holds : progress.source.Holds (c :: chars)) (plain : '\\' ∉ chars) :
    ∃ source, take.run progress = .ok (some (.plain c), { progress with source := source }) ∧
      source.Holds chars := by
  obtain ⟨next, rest⟩ := holds
  rw [List.tail_cons] at rest
  obtain ⟨source, ahead, holds⟩ := Source.exists_ahead plain progress.source.index
  refine ⟨source, ?_, holds⟩
  have advanced : progress.source.advance = .ok source := by rw [Source.advance, rest, ahead]
  simp only [take, StateT.run_bind, StateT.run_get, pure_bind, StateT.run_monadLift,
    monadLift_self, bind_pure_comp, advanced, next]
  rfl

/-- Characters that are no operators are read as the parts that they write. -/
theorem exists_readSequence (plain : ∀ c ∈ chars, c ∉ operators) {fuel : Nat}
    (enough : chars.length < fuel) (holds : progress.source.Holds chars) (first : Bool)
    (read : List Node) :
    ∃ source, (readSequence fuel false first read).run progress
        = .ok (unwrapped (read.reverse ++ chars.map partOf), { progress with source := source }) ∧
      source.Holds [] := by
  induction chars generalizing fuel progress read with
  | nil =>
      cases fuel with
      | zero => cases enough
      | succ fuel =>
          refine ⟨progress.source, ?_, holds⟩
          rw [readSequence, run_bind_of_ok (peek_run progress), holds.next, List.map_nil,
            List.append_nil]
          rfl
  | cons c chars ih =>
      cases fuel with
      | zero => cases enough
      | succ fuel =>
          have later : ∀ d ∈ chars, d ∉ operators :=
            fun d member => plain d (List.mem_cons_of_mem c member)
          obtain ⟨source, taken, behind⟩ := exists_take holds fun member =>
            later _ member (by decide)
          have behind : ({ progress with source := source } : Progress).source.Holds chars := behind
          obtain ⟨last, reads, done⟩ := ih later (Nat.lt_of_succ_lt_succ enough) behind
            (partOf c :: read)
          refine ⟨last, ?_, done⟩
          have other := plain c List.mem_cons_self
          simp only [operators, List.mem_cons, List.not_mem_nil, or_false, not_or] at other
          obtain ⟨point, star, plus, query, brace, bracket, -, bar, left, right⟩ := other
          rw [List.reverse_cons, List.append_assoc, List.singleton_append] at reads
          rw [readSequence, run_bind_of_ok (peek_run progress), holds.next, List.map_cons, ← reads]
          simp only [List.head?_cons, Option.map_some, Token.plain.injEq, bar, right, or_self,
            if_false, run_bind_of_ok taken, Bool.false_and, Bool.false_eq_true, bracket, query,
            star, plus, brace, point, left]
          unfold partOf
          split_ifs <;> rfl

theorem unwrapped_partOf (chars : List Char) : unwrapped (chars.map partOf) = chars.map partOf := by
  induction chars with
  | nil => rfl
  | cons c chars ih =>
      rw [List.map_cons, unwrapped, List.flatMap_cons, ← unwrapped, ih]
      unfold partOf
      split_ifs <;> rfl

/-- Characters that are no operators are a single alternative. -/
theorem exists_readAlternatives (plain : ∀ c ∈ chars, c ∉ operators) {fuel : Nat}
    (enough : chars.length + 1 < fuel) (holds : progress.source.Holds chars) :
    ∃ source, (readAlternatives fuel false true []).run progress
        = .ok (chars.map partOf, { progress with source := source }) ∧ source.Holds [] := by
  cases fuel with
  | zero => cases enough
  | succ fuel =>
      obtain ⟨source, reads, done⟩ :=
        exists_readSequence plain (Nat.lt_of_succ_lt_succ enough) holds true []
      rw [List.reverse_nil, List.nil_append, unwrapped_partOf] at reads
      refine ⟨source, ?_, done⟩
      have ended : source.next ≠ some (.plain '|') := by simp [done.next]
      rw [readAlternatives, List.isEmpty_nil, Bool.and_self, run_bind_of_ok reads,
        run_bind_of_ok (accept_of_next_ne ended)]
      rfl

/-- A pattern without operators is read as the parts that its characters write. -/
theorem readPattern_plain (plain : ∀ c ∈ chars, c ∉ operators) :
    readPattern chars = .ok ⟨chars.map partOf, usualOptions,
      sequenceWidth [none] (chars.map partOf)⟩ := by
  obtain ⟨source, ahead, holds⟩ := Source.exists_ahead (fun member => plain _ member (by decide)) 0
  have enough : chars.length + 1 < 3 * chars.length + 4 := by omega
  have begun : (⟨source, [none], [], [], {}, none⟩ : Progress).source.Holds chars := holds
  obtain ⟨last, reads, done⟩ := exists_readAlternatives plain enough begun
  have whole : (readWhole chars.length).run ⟨source, [none], [], [], {}, none⟩
      = .ok (⟨chars.map partOf, usualOptions, sequenceWidth [none] (chars.map partOf)⟩,
          ⟨last, [none], [], [], {}, none⟩) := by
    rw [readWhole, run_bind_of_ok reads]
    simp [StateT.run_bind, done.next]
    rfl
  have started : Source.ofChars chars = .ok source := ahead
  rw [readPattern, started]
  change (readWhole chars.length).run ⟨source, [none], [], [], {}, none⟩ >>= _ = _
  rw [whole]
  rfl

end Reading

theorem sequenceFlaw?_partOf {check : Node → Option Cause} (sound : ∀ c, check (partOf c) = none)
    (chars : List Char) : sequenceFlaw? check (chars.map partOf) = none := by
  induction chars with
  | nil => rfl
  | cons c chars ih =>
      have single : (partOf c).flaw? check = none := by
        have own := sound c
        unfold partOf at own ⊢
        split_ifs at own ⊢ <;> simp [Node.flaw?, own]
      rw [List.map_cons, sequenceFlaw?, single, ih]
      rfl

/-- A pattern without operators can be compiled. -/
theorem compile_plain {source : String} (plain : ∀ c ∈ source.toList, c ∉ operators) :
    compile source = .ok ⟨source, source.toList.map partOf, usualOptions,
      (sequenceWidth [none] (source.toList.map partOf)).least⟩ := by
  have form : sequenceFlaw? (formCheck usualOptions) (source.toList.map partOf) = none := by
    refine sequenceFlaw?_partOf (fun c => ?_) _
    unfold partOf
    split_ifs <;> rfl
  have reach : sequenceFlaw? reachCheck (source.toList.map partOf) = none := by
    refine sequenceFlaw?_partOf (fun c => ?_) _
    unfold partOf
    split_ifs <;> rfl
  rw [compile, readPattern_plain plain]
  simp only [form, reach]
  rfl

/-! ## Matching -/

section Where

variable {first second : Place → Prop} [DecidablePred first] [DecidablePred second]
  {count further : Nat} {start last : End}

/-- The end of what takes a number of characters, which is there where something holds of the place. -/
def endsWhere (holds : Place → Prop) [DecidablePred holds] (count : Nat) : End → List End :=
  fun (marks, place) => if holds place then [(marks, place.forward count)] else []

theorem endsWhere_ne_nil_iff : endsWhere first count start ≠ [] ↔ first start.2 := by
  simp [endsWhere]

theorem marks_of_mem_endsWhere (member : last ∈ endsWhere first count start) : last.1 = start.1 := by
  simp only [endsWhere] at member
  split at member
  · rw [List.mem_singleton.mp member]
  · cases member

/-- Of two in a row the second one begins where the first one ends. -/
theorem endsWhere_flatMap :
    (endsWhere first count start).flatMap (endsWhere second further)
      = endsWhere (fun place => first place ∧ second (place.forward count)) (count + further)
          start := by
  obtain ⟨marks, place⟩ := start
  by_cases holds : first place <;> simp [endsWhere, holds, Place.forward_forward]

theorem endsWhere_congr (same : ∀ place, first place ↔ second place) :
    endsWhere first count = endsWhere second count := by
  funext start
  simp only [endsWhere, same]

end Where

theorem offers_anchor (entered : Nat) (options : Options) (ahead : Lead) (at_ : Anchor) :
    Offers entered entered (matchNode options false ahead (.anchor at_))
      (endsWhere (fun place => at_.holds options place = true) 0) := by
  intro follow answer answers state counted
  simp only [matchNode, endsWhere, Place.forward_zero]
  by_cases holds : at_.holds options state.place = true
  · have yields := answers state counted
    simpa [holds] using yields
  · have failed : (Attempt.failed state).Yields state.marks none :=
      Attempt.yields_failed List.prefix_rfl
    simpa [holds] using failed

theorem charEnds_eq (c : Char) :
    charEnds (· == c) = endsWhere (fun place => place.after.head? = some c) 1 := by
  funext ⟨marks, index, before, after⟩
  cases after with
  | nil => rfl
  | cons d rest => by_cases same : d = c <;> simp [charEnds, endsWhere, same]

/-- The ends of a text: behind it, if it stands at a place. -/
abbrev textEnds (text : List Char) : End → List End :=
  endsWhere (fun place => text <+: place.after) text.length

/-- A text ends behind its first character where the rest of it ends. -/
theorem charEnds_flatMap_textEnds (c : Char) (text : List Char) (start : End) :
    (charEnds (· == c) start).flatMap (textEnds text) = textEnds (c :: text) start := by
  have stands (place : Place) : (place.after.head? = some c ∧ text <+: (place.forward 1).after) ↔
      c :: text <+: place.after := by
    rw [Place.forward_after]
    cases place.after with
    | nil => simp
    | cons d rest => simp [eq_comm]
  rw [charEnds_eq, endsWhere_flatMap, endsWhere_congr stands, Nat.add_comm, ← List.length_cons]

/-- The parts that match a text, one character after the other. -/
def textNodes (text : List Char) : List Node := text.map fun c => .char c.toNat

/-- Where case matters a text is matched, and then what stands behind it. -/
theorem offers_textNodes {entered left : Nat} {options : Options}
    (cased : options.ignoreCase = false) {ahead : Lead} {nodes : List Node}
    {rest : End → List End} (text : List Char)
    (tail : Offers entered left (matchSequence options false ahead nodes) rest) :
    Offers entered left (matchSequence options false ahead (textNodes text ++ nodes))
      fun start => (textEnds text start).flatMap rest := by
  induction text with
  | nil =>
      have nothing : (fun start => (textEnds [] start).flatMap rest) = rest := by
        funext start
        simp [textEnds, endsWhere]
      rw [nothing]
      exact tail
  | cons c text ih =>
      have accepts : charMatches options c.toNat = fun d => d == c := by
        funext d
        rw [charMatches, cased, Bool.false_and, if_neg Bool.false_ne_true, Bool.eq_iff_iff,
          beq_iff_eq, beq_iff_eq]
        exact ⟨Char.toNat_inj.mp, congrArg Char.toNat⟩
      have head : Offers entered entered (matchNode options false
          (sequenceLead options ahead (textNodes text ++ nodes)) (.char c.toNat))
          (charEnds (· == c)) := by
        rw [matchNode, accepts]
        exact offers_matchChar entered _
      have whole := offers_cons head ih
      simp only [← List.flatMap_assoc, charEnds_flatMap_textEnds] at whole
      exact whole

theorem least_textNodes_le (groups : GroupWidths) (text : List Char) (nodes : List Node) :
    (sequenceWidth groups (textNodes text ++ nodes)).least
      ≤ text.length + (sequenceWidth groups nodes).least := by
  induction text with
  | nil => simp [textNodes]
  | cons c text ih =>
      have capped : (sequenceWidth groups (textNodes (c :: text) ++ nodes)).least
          ≤ 1 + (sequenceWidth groups (textNodes text ++ nodes)).least := Nat.min_le_left _ _
      rw [List.length_cons]
      omega

/-! ## Occurrences -/

/-- There is an end from one of the places exactly if something holds of one that lies inside the
    text. -/
theorem isEmpty_endsFrom_endsWhere_iff {holds : Place → Prop} [DecidablePred holds]
    {count width : Nat} {place : Place} {all : List End}
    (found : endsFrom (endsWhere holds width) count place = all) :
    all.isEmpty = false ↔ ∃ skipped, skipped < count ∧ skipped ≤ place.after.length ∧
      holds (place.forward skipped) := by
  rw [← found, isEmpty_endsFrom_eq_false_iff]
  simp only [endsWhere_ne_nil_iff]

/-- A pattern that ends where something holds occurs in a text exactly if that holds of one of the
    places at which a search begins a match. -/
theorem occursIn_of_offers {pattern : Pattern} {holds : Place → Prop} [DecidablePred holds]
    {count : Nat} {text : String} {occurs : Prop} [Decidable occurs]
    (offers : Offers 0 0 (matchSequence pattern.options false .unknown pattern.nodes)
      (endsWhere holds count))
    (unset : startSet? pattern.options pattern.nodes = none)
    (meaning : (pattern.least ≤ text.toList.length ∧ ∃ skipped,
        skipped < startCount pattern.options pattern.least text.toList.length pattern.nodes ∧
        skipped ≤ text.toList.length ∧ holds ((Place.start text.toList).forward skipped)) ↔
      occurs) :
    pattern.occursIn text = .ok (decide occurs) := by
  have lead : startLead pattern.options pattern.least pattern.nodes = .unknown := by
    rw [startLead, unset]
  unfold occursIn search
  by_cases short : text.toList.length < pattern.least
  · have nowhere : ¬occurs := fun there => Nat.not_le.mpr short (meaning.mpr there).1
    rw [if_pos short, decide_eq_false nowhere]
  · rw [if_neg short, lead, searchFrom_eq_head? offers]
    generalize found : endsFrom (endsWhere holds count)
      (startCount pattern.options pattern.least text.toList.length pattern.nodes)
      (.start text.toList) = all
    have anywhere := isEmpty_endsFrom_endsWhere_iff found
    cases all with
    | nil =>
        have nowhere : ¬occurs := fun there => nomatch anywhere.mpr (meaning.mpr there).2
        rw [decide_eq_false nowhere]
        rfl
    | cons first others =>
        have among : first ∈ endsFrom (endsWhere holds count) _ (.start text.toList) :=
          found ▸ List.mem_cons_self
        obtain ⟨skipped, -, here⟩ := List.mem_flatMap.mp among
        have marks : (Matching.ofEnd first).marks = [] := marks_of_mem_endsWhere here
        have there : occurs := meaning.mp ⟨Nat.not_lt.mp short, anywhere.mp rfl⟩
        simp only [List.head?_cons, Option.map_some, marks, decide_eq_true there]
        rfl

/-- A search begins a match at one place at least, if the text is as long as the shortest match. -/
theorem startCount_pos {options : Options} {least length : Nat} {nodes : List Node}
    (fits : least ≤ length) : 0 < startCount options least length nodes := by
  unfold startCount
  split <;> omega

theorem isInfix_iff_exists_drop {part text : List Char} :
    part <:+: text ↔ ∃ skipped ≤ text.length, part <+: text.drop skipped := by
  constructor
  · rintro ⟨before, after, rfl⟩
    refine ⟨before.length, by simp, after, ?_⟩
    simp
  · rintro ⟨skipped, -, first⟩
    exact first.isInfix.trans (List.drop_suffix skipped text).isInfix

/-- The characters that mean something in a pattern, be it only in some places. -/
def specialChars : List Char := operators ++ ['^', '$', '\x7d', ']']

/-- A text whose characters mean nothing but themselves in a pattern. -/
structure IsLiteral (text : String) : Prop where
  ne_empty : text ≠ ""
  plain : ∀ c ∈ text.toList, c ∉ specialChars

section Literal

variable {text : String}

theorem IsLiteral.not_mem_operators (literal : IsLiteral text) :
    ∀ c ∈ text.toList, c ∉ operators :=
  fun c member operator => literal.plain c member (List.mem_append_left _ operator)

theorem IsLiteral.map_partOf (literal : IsLiteral text) :
    text.toList.map partOf = textNodes text.toList := by
  refine List.map_congr_left fun c member => ?_
  have plain := literal.plain c member
  have caret : c ≠ '^' := fun same => plain (by rw [same]; decide)
  have dollar : c ≠ '$' := fun same => plain (by rw [same]; decide)
  rw [partOf, if_neg caret, if_neg dollar]

theorem IsLiteral.toList_ne_nil (literal : IsLiteral text) : text.toList ≠ [] :=
  fun empty => literal.ne_empty (String.toList_eq_nil_iff.mp empty)

/-- A literal text can be compiled, and occurs in a name exactly if it is a part of that. -/
theorem IsLiteral.exists_compile (literal : IsLiteral text) :
    ∃ pattern, compile text = .ok pattern ∧
      ∀ name, pattern.occursIn name = .ok (decide (text.toList <:+: name.toList)) := by
  refine ⟨_, compile_plain literal.not_mem_operators, fun name => ?_⟩
  rw [literal.map_partOf]
  obtain ⟨c, rest, letters⟩ := List.exists_cons_of_ne_nil literal.toList_ne_nil
  have unset : startSet? usualOptions (textNodes text.toList) = none := by
    rw [letters]
    rfl
  have opens : opensLiterally usualOptions false (textNodes text.toList) = true := by
    rw [letters]
    rfl
  have least := least_textNodes_le [none] text.toList []
  have offers : Offers 0 0 (matchSequence usualOptions false .unknown (textNodes text.toList ++ []))
      fun start => (textEnds text.toList start).flatMap fun last => [last] :=
    offers_textNodes rfl text.toList (offers_nil 0 usualOptions .unknown)
  simp only [List.append_nil, List.flatMap_singleton'] at least offers
  refine occursIn_of_offers offers unset ?_
  simp only [startCount, opens, Bool.or_true, Bool.true_or, if_true, Place.forward_after, Place.start]
  constructor
  · rintro ⟨-, skipped, -, inside, stands⟩
    exact isInfix_iff_exists_drop.mpr ⟨skipped, inside, stands⟩
  · intro part
    obtain ⟨skipped, inside, stands⟩ := isInfix_iff_exists_drop.mp part
    exact ⟨least.trans part.length_le, skipped, Nat.lt_succ_of_le inside, inside, stands⟩

/-! ### Whole texts -/

/-- The parts that match a text from the start of a line to its end. -/
def lineNodes (text : List Char) : List Node :=
  .anchor .lineStart :: (textNodes text ++ [.anchor .lineEnd])

/-- A text is all that stands around a place, but for a line feed at the end. -/
abbrev IsWhole (text : List Char) (place : Place) : Prop :=
  place.before = [] ∧ (place.after = text ∨ place.after = text ++ ['\n'])

/-- The two anchors hold around a text exactly if it is whole. -/
theorem isWhole_iff (text : List Char) (place : Place) :
    (Anchor.lineStart.holds usualOptions place = true ∧ text <+: place.after ∧
      Anchor.lineEnd.holds usualOptions (place.forward text.length) = true) ↔
      IsWhole text place := by
  have starts : Anchor.lineStart.holds usualOptions place = true ↔ place.before = [] := by
    simp [Anchor.holds]
  have ends : Anchor.lineEnd.holds usualOptions (place.forward text.length) = true ↔
      place.after.drop text.length = [] ∨ place.after.drop text.length = ['\n'] := by
    simp [Anchor.holds]
  rw [starts, ends, IsWhole]
  refine and_congr_right fun _ => ⟨?_, ?_⟩
  · rintro ⟨⟨rest, letters⟩, last⟩
    rw [← letters, List.drop_left] at last
    rw [← letters]
    rcases last with rfl | rfl
    · exact .inl (List.append_nil text)
    · exact .inr rfl
  · rintro (same | same) <;> rw [same] <;> simp

theorem offers_lineNodes (text : List Char) :
    Offers 0 0 (matchSequence usualOptions false .unknown (lineNodes text))
      (endsWhere (IsWhole text) text.length) := by
  have last := offers_cons (offers_anchor 0 usualOptions _ .lineEnd)
    (offers_nil 0 usualOptions .unknown)
  have whole := offers_cons (offers_anchor 0 usualOptions _ .lineStart)
    (offers_textNodes rfl text last)
  simp only [List.flatMap_singleton', endsWhere_flatMap, Place.forward_zero, Nat.zero_add,
    Nat.add_zero, endsWhere_congr (isWhole_iff text)] at whole
  exact whole

theorem least_lineNodes_le (groups : GroupWidths) (text : List Char) :
    (sequenceWidth groups (lineNodes text)).least ≤ text.length := by
  have capped : (sequenceWidth groups (lineNodes text)).least
      ≤ 0 + (sequenceWidth groups (textNodes text ++ [.anchor .lineEnd])).least :=
    Nat.min_le_left _ _
  have behind := least_textNodes_le groups text [.anchor .lineEnd]
  have last : (sequenceWidth groups [.anchor .lineEnd]).least = 0 := rfl
  omega

/-- A text can be all that stands around a place only if the place is the start. -/
theorem isWhole_forward_iff {text name : List Char} {skipped : Nat} (inside : skipped ≤ name.length) :
    IsWhole text ((Place.start name).forward skipped) ↔
      skipped = 0 ∧ (name = text ∨ name = text ++ ['\n']) := by
  have starts : ((Place.start name).forward skipped).before = [] ↔ skipped = 0 := by
    rw [← List.length_eq_zero_iff]
    simp only [Place.forward, Place.start, List.append_nil, List.length_reverse, List.length_take]
    omega
  rw [IsWhole, starts]
  refine and_congr_right fun here => ?_
  rw [here, Place.forward_zero]
  rfl

/-- A literal text between a caret and a dollar sign can be compiled, and occurs exactly in itself and
    in itself with a line feed behind it. -/
theorem IsLiteral.exists_compile_line (literal : IsLiteral text) :
    ∃ pattern, compile ("^" ++ text ++ "$") = .ok pattern ∧
      ∀ name, pattern.occursIn name = .ok (decide (name = text ∨ name = text ++ "\n")) := by
  have letters : ("^" ++ text ++ "$").toList = '^' :: (text.toList ++ ['$']) := by simp
  have plain : ∀ c ∈ ("^" ++ text ++ "$").toList, c ∉ operators := by
    rw [letters]
    intro c member
    rcases List.mem_cons.mp member with rfl | member
    · decide
    · rcases List.mem_append.mp member with member | member
      · exact literal.not_mem_operators c member
      · rw [List.mem_singleton.mp member]
        decide
  have parts : ("^" ++ text ++ "$").toList.map partOf = lineNodes text.toList := by
    rw [letters, List.map_cons, List.map_append, literal.map_partOf]
    rfl
  refine ⟨_, compile_plain plain, fun name => ?_⟩
  rw [parts]
  have least := least_lineNodes_le [none] text.toList
  have same : (name = text ∨ name = text ++ "\n") ↔
      (name.toList = text.toList ∨ name.toList = text.toList ++ ['\n']) := by
    simp [← String.toList_inj]
  refine occursIn_of_offers (offers_lineNodes text.toList) rfl (Iff.trans ?_ same.symm)
  constructor
  · rintro ⟨-, skipped, -, inside, whole⟩
    exact ((isWhole_forward_iff inside).mp whole).2
  · intro whole
    have fits : (sequenceWidth [none] (lineNodes text.toList)).least ≤ name.toList.length := by
      refine least.trans ?_
      rcases whole with whole | whole <;> simp [whole]
    exact ⟨fits, 0, startCount_pos fits, Nat.zero_le _,
      (isWhole_forward_iff (Nat.zero_le _)).mpr ⟨rfl, whole⟩⟩

end Literal

end ContainerWatch.Pattern
