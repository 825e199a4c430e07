import ContainerWatch.Proofs.Json.Encoding
import ContainerWatch.Proofs.Json.Grammar

/-!
# Which written texts are JSON

The text that is written for a value is derived by the rules of JSON if the value holds no number
that is none or that is infinite.  Otherwise the text names such a number outside of its strings,
where no JSON text has the letters of the name.
-/

namespace ContainerWatch.Json

open Binary64 Text

mutual

/-- Whether JSON can express every number in floating point that is written for a value.  Keys are
    written as strings, which can name any number. -/
def isExpressible : Value → Bool
  | .float x => x.isFinite
  | .list items | .tuple items => areExpressible items
  | .dict entries => haveExpressible entries
  | _ => true

/-- Whether JSON can express every number that is written for several values. -/
def areExpressible : List Value → Bool
  | [] => true
  | item :: items => isExpressible item && areExpressible items

/-- Whether JSON can express every number that is written for the values of several entries. -/
def haveExpressible : List (Value × Value) → Bool
  | [] => true
  | (_, value) :: entries => isExpressible value && haveExpressible entries

end

/-! ## Numbers -/

theorem isFraction_fractionPart {digits : List Char} (all : ∀ c ∈ digits, c.isDigit = true) :
    IsFraction (Numeral.fractionPart digits) := by
  cases digits with
  | nil => exact .absent
  | cons d digits => exact .present ⟨List.cons_ne_nil d digits, all⟩

theorem isExponent_exponentPart (exponent : Option Int) :
    IsExponent (Numeral.exponentPart exponent) := by
  cases exponent with
  | none => exact .absent
  | some exponent =>
      have digits : IsDigits (padLeft '0' 2 (decimal exponent.natAbs)) :=
        ⟨by simp [padLeft, decimal_ne_nil], isDigit_of_mem_exponentDigits⟩
      by_cases negative : exponent < 0
      · have signed : IsExponent ('e' :: (['-'] ++ padLeft '0' 2 (decimal exponent.natAbs))) :=
          .present (.inl rfl) (.inr (.inr rfl)) digits
        simpa [Numeral.exponentPart, exponentText, negative] using signed
      · have signed : IsExponent ('e' :: (['+'] ++ padLeft '0' 2 (decimal exponent.natAbs))) :=
          .present (.inl rfl) (.inr (.inl rfl)) digits
        simpa [Numeral.exponentPart, exponentText, negative] using signed

theorem Numeral.Proper.isNumber {numeral : Numeral} (proper : numeral.Proper) (negative : Bool) :
    IsNumber (signed negative numeral.text) := by
  have isWhole : IsWhole numeral.whole := by
    obtain ⟨first, digits, whole⟩ := List.exists_cons_of_ne_nil proper.nonempty
    have all := proper.wholes
    have leading := proper.leading
    rw [whole] at all leading ⊢
    obtain ⟨digit, others⟩ := List.forall_mem_cons.mp all
    by_cases zero : first = '0'
    · have single := leading (congrArg some zero)
      obtain rfl : digits = [] := by simpa using single
      rw [zero]
      exact .zero
    · exact .positive digit zero others
  have isFraction := isFraction_fractionPart proper.fractions
  have isExponent := isExponent_exponentPart numeral.exponent
  cases negative with
  | true =>
      have sign : ['-'] = [] ∨ ['-'] = ['-'] := .inr rfl
      exact .mk sign isWhole isFraction isExponent
  | false =>
      have sign : ([] : List Char) = [] ∨ [] = ['-'] := .inl rfl
      exact .mk sign isWhole isFraction isExponent

theorem isNumber_zero (negative : Bool) : IsNumber (signed negative ['0', '.', '0']) := by
  have proper : Numeral.Proper ⟨['0'], ['0'], none⟩ :=
    ⟨List.cons_ne_nil _ _, by simp, by simp, fun _ => rfl⟩
  exact proper.isNumber negative

theorem isNumber_shortestPositive {mantissa : Nat} {exponent : Int} (positive : 0 < mantissa)
    (negative : Bool) : IsNumber (signed negative (shortestPositive mantissa exponent)) := by
  rcases Nat.eq_zero_or_pos (shortest mantissa exponent).digits with none | digits
  -- A mantissa that is not that of a number of the format may have no decimal that reads back.
  · have power := shortest_power_of_digits_zero positive none
    have text : shortestPositive mantissa exponent = ['0', '.', '0'] := by
      simp [shortestPositive, none, power, significant, positional, decimal_of_lt, digitChar]
    rw [text]
    exact isNumber_zero negative
  · obtain ⟨numeral, proper, text, _⟩ := exists_numeral_of_shortest digits
    rw [← text]
    exact proper.isNumber negative

theorem isNumber_floatText {x : Binary64} (isFinite : x.isFinite = true) :
    IsNumber (floatText x).toList := by
  cases x with
  | infinite negative => cases isFinite
  | nan => cases isFinite
  | finite negative mantissa exponent =>
      show IsNumber (shortestText (finite negative mantissa exponent)).toList
      rw [shortestText, String.toList_ofList]
      split
      · exact isNumber_zero negative
      · exact isNumber_shortestPositive (Nat.pos_of_ne_zero ‹_›) negative

theorem isNumber_intText (n : Int) : IsNumber (intText n).toList := by
  obtain ⟨negative, numeral, proper, text, _⟩ := isNumeral_intText n
  rw [text]
  exact proper.isNumber negative

/-! ## Strings -/

theorem isHexDigit_digitChar {d : Nat} (small : d < 16) : IsHexDigit (digitChar d) := by
  unfold IsHexDigit
  interval_cases d <;> decide

theorem isCharacter_unitEscape (unit : Nat) : IsCharacter (unitEscape unit) := by
  have digit (n : Nat) : IsHexDigit (digitChar (n % 16)) :=
    isHexDigit_digitChar (Nat.mod_lt n (by omega))
  rw [unitEscape_eq]
  exact .unit ⟨digit _, digit _, digit _, digit _⟩

/-- What is written for a character stands for characters of the grammar, for two of them if it is
    beyond 16 bits. -/
theorem exists_characters_escapedChar (c : Char) :
    ∃ characters : List (List Char), (∀ text ∈ characters, IsCharacter text) ∧
      escapedChar c = characters.flatten := by
  have one {text : List Char} (isCharacter : IsCharacter text) :
      ∃ characters : List (List Char), (∀ text ∈ characters, IsCharacter text) ∧
        text = characters.flatten := ⟨[text], by simpa using isCharacter, by simp⟩
  unfold escapedChar
  split_ifs with mark escape _ _ _ _ _ plain
  · exact one (.escape (by decide))
  · exact one (.escape (by decide))
  · exact one (.escape (by decide))
  · exact one (.escape (by decide))
  · exact one (.escape (by decide))
  · exact one (.escape (by decide))
  · exact one (.escape (by decide))
  · exact one (.plain plain.1 mark escape)
  · exact one (isCharacter_unitEscape _)
  · have units := List.forall_mem_cons.mpr ⟨isCharacter_unitEscape
      (0xD800 + (c.toNat - 0x10000) / 0x400), List.forall_mem_singleton.mpr (isCharacter_unitEscape
      (0xDC00 + (c.toNat - 0x10000) % 0x400))⟩
    exact ⟨_, units, by simp⟩

theorem isString_writeString (s : String) : IsString (writeString s).toList := by
  have body (text : List Char) : ∃ characters : List (List Char),
      (∀ text ∈ characters, IsCharacter text) ∧ text.flatMap escapedChar = characters.flatten := by
    induction text with
    | nil => exact ⟨[], by simp, rfl⟩
    | cons c text ih =>
        obtain ⟨head, isHead, first⟩ := exists_characters_escapedChar c
        obtain ⟨tail, isTail, others⟩ := ih
        refine ⟨head ++ tail, List.forall_mem_append.mpr ⟨isHead, isTail⟩, ?_⟩
        rw [List.flatMap_cons, first, others, List.flatten_append]
  obtain ⟨characters, all, text⟩ := body s.toList
  have written : (writeString s).toList = '"' :: (characters.flatten ++ ['"']) := by
    simp [writeString, stringChars, text]
  rw [written]
  exact .mk all

/-! ## Texts that no rule derives

An array or object is foul if one of its parts is, and the parts on either side of that one only have
to close their strings. -/

section Judgement

variable {symbol one many : Symbol} {first second : List Char} {text : String}
  {texts others : List String} {good goodToo : Bool}

/-- A text that closes its strings and has an `N` or an `I` outside of them. -/
def Foul (text : List Char) : Prop := ∃ seen, Scans text seen ∧ ('N' ∈ seen ∨ 'I' ∈ seen)

theorem foul_of_plain (plain : ∀ c ∈ first, c ≠ '"') (letter : 'N' ∈ first ∨ 'I' ∈ first) :
    Foul first := ⟨first, scans_of_plain plain, letter⟩

theorem Clean.not_foul (clean : Clean first) : ¬Foul first := by
  rintro ⟨seen, scans, letter⟩
  obtain ⟨other, scansToo, noN, noI⟩ := clean
  obtain rfl := scans.unique scansToo
  exact letter.elim noN noI

theorem Clean.closesStrings (clean : Clean first) : ClosesStrings first := by
  obtain ⟨seen, scans, _⟩ := clean
  exact ⟨seen, scans⟩

theorem Foul.closesStrings (foul : Foul first) : ClosesStrings first := by
  obtain ⟨seen, scans, _⟩ := foul
  exact ⟨seen, scans⟩

/-- A text that is foul remains so in front of one that closes its strings. -/
theorem Foul.append_left (foul : Foul first) (closes : ClosesStrings second) :
    Foul (first ++ second) := by
  obtain ⟨seen, scans, letter⟩ := foul
  obtain ⟨others, scansToo⟩ := closes
  refine ⟨seen ++ others, scans.append scansToo, ?_⟩
  exact letter.imp (List.mem_append_left others) (List.mem_append_left others)

/-- A text that is foul remains so behind one that closes its strings. -/
theorem Foul.append_right (foul : Foul second) (closes : ClosesStrings first) :
    Foul (first ++ second) := by
  obtain ⟨seen, scans, letter⟩ := foul
  obtain ⟨others, scansToo⟩ := closes
  refine ⟨others ++ seen, scansToo.append scans, ?_⟩
  exact letter.imp (List.mem_append_right others) (List.mem_append_right others)

/-! ## What is written -/

/-- A text that the rules derive if it is good, and that is foul if it is not. -/
def Judged (symbol : Symbol) (good : Bool) (text : String) : Prop :=
  if good then Derives symbol text.toList else Foul text.toList

/-- Texts that the rules derive if all are good, and that include a foul one if not. -/
def AllJudged (symbol : Symbol) (good : Bool) (texts : List String) : Prop :=
  if good then ∀ text ∈ texts, Derives symbol text.toList
  else (∀ text ∈ texts, ClosesStrings text.toList) ∧ ∃ text ∈ texts, Foul text.toList

theorem judged_of_derives (derives : Derives symbol text.toList) : Judged symbol true text :=
  derives

theorem Judged.closesStrings (judged : Judged symbol good text) : ClosesStrings text.toList := by
  cases good with
  | true => exact Clean.closesStrings (Derives.clean judged)
  | false => exact Foul.closesStrings judged

theorem AllJudged.closesStrings (judged : AllJudged symbol good texts) :
    ∀ text ∈ texts, ClosesStrings text.toList := by
  cases good with
  | true => exact fun text member => Clean.closesStrings (Derives.clean (judged text member))
  | false => exact judged.1

theorem allJudged_nil : AllJudged symbol true [] := nofun

theorem AllJudged.append (judged : AllJudged symbol good texts)
    (judgedToo : AllJudged symbol goodToo others) :
    AllJudged symbol (good && goodToo) (texts ++ others) := by
  have closes := List.forall_mem_append.mpr ⟨judged.closesStrings, judgedToo.closesStrings⟩
  cases good with
  | false =>
      obtain ⟨text, member, foul⟩ := judged.2
      exact ⟨closes, text, List.mem_append_left others member, foul⟩
  | true =>
      cases goodToo with
      | false =>
          obtain ⟨text, member, foul⟩ := judgedToo.2
          exact ⟨closes, text, List.mem_append_right texts member, foul⟩
      | true => exact List.forall_mem_append.mpr ⟨judged, judgedToo⟩

theorem Judged.singleton (judged : Judged symbol good text) : AllJudged symbol good [text] := by
  cases good with
  | true => exact List.forall_mem_singleton.mpr judged
  | false =>
      have closes : ∀ other ∈ [text], ClosesStrings other.toList :=
        List.forall_mem_singleton.mpr judged.closesStrings
      exact ⟨closes, text, List.mem_singleton_self text, judged⟩

theorem AllJudged.cons (judgedToo : AllJudged symbol goodToo texts)
    (judged : Judged symbol good text) : AllJudged symbol (good && goodToo) (text :: texts) :=
  judged.singleton.append judgedToo

/-- The rules derive joined texts as they do several ones. -/
theorem derives_intercalate
    (single : ∀ {text}, Derives one text → Derives many text)
    (more : ∀ {text others}, Derives one text → Derives many others →
      Derives many (text ++ ',' :: ' ' :: others))
    (all : ∀ text ∈ texts, Derives one text.toList) (nonempty : texts ≠ []) :
    Derives many (String.intercalate ", " texts).toList := by
  induction texts with
  | nil => exact absurd rfl nonempty
  | cons first texts ih =>
      obtain ⟨derives, others⟩ := List.forall_mem_cons.mp all
      cases texts with
      | nil =>
          rw [String.intercalate_singleton]
          exact single derives
      | cons second texts =>
          rw [toList_intercalate]
          exact more derives (ih others (List.cons_ne_nil second texts))

theorem closesStrings_comma : ClosesStrings [',', ' '] := closesStrings_of_plain (by simp)

/-- Joined texts close their strings if each of them does. -/
theorem closesStrings_intercalate (closes : ∀ text ∈ texts, ClosesStrings text.toList) :
    ClosesStrings (String.intercalate ", " texts).toList := by
  induction texts with
  | nil => exact closesStrings_of_plain nofun
  | cons first texts ih =>
      obtain ⟨head, tail⟩ := List.forall_mem_cons.mp closes
      cases texts with
      | nil =>
          rw [String.intercalate_singleton]
          exact head
      | cons second texts =>
          rw [toList_intercalate]
          exact head.append (closesStrings_comma.append (ih tail))

theorem foul_intercalate (closes : ∀ text ∈ texts, ClosesStrings text.toList)
    (foul : ∃ text ∈ texts, Foul text.toList) :
    Foul (String.intercalate ", " texts).toList := by
  induction texts with
  | nil => exact absurd foul (by simp)
  | cons first texts ih =>
      obtain ⟨head, tail⟩ := List.forall_mem_cons.mp closes
      rw [List.exists_mem_cons_iff] at foul
      cases texts with
      | nil =>
          rw [String.intercalate_singleton]
          exact foul.resolve_right (by simp)
      | cons second texts =>
          rw [toList_intercalate]
          rcases foul with here | there
          · exact here.append_left (closesStrings_comma.append (closesStrings_intercalate tail))
          · exact ((ih tail there).append_right closesStrings_comma).append_right head

/-- A foul text between marks that are none of a string is foul. -/
theorem Foul.enclosed {opening closing : Char} (foul : Foul first) (begins : opening ≠ '"')
    (ends : closing ≠ '"') : Foul (opening :: (first ++ [closing])) := by
  have mark {c : Char} (plain : c ≠ '"') : ClosesStrings [c] :=
    closesStrings_of_plain (by simpa using plain)
  have closed := foul.append_left (mark ends)
  exact closed.append_right (mark begins)

theorem judged_array (all : AllJudged .value good texts) :
    Judged .value good ("[" ++ String.intercalate ", " texts ++ "]") := by
  unfold Judged
  rw [toList_array]
  cases good with
  | false => exact (foul_intercalate all.1 all.2).enclosed (by decide) (by decide)
  | true =>
      show Derives .value _
      by_cases empty : texts = []
      · rw [empty]
        exact .emptyArray allBlank_nil
      · exact .tightArray (derives_intercalate .oneItem .spacedItems all empty)

theorem judged_object (all : AllJudged .member good texts) :
    Judged .value good ("\x7b" ++ String.intercalate ", " texts ++ "\x7d") := by
  unfold Judged
  rw [toList_object]
  cases good with
  | false => exact (foul_intercalate all.1 all.2).enclosed (by decide) (by decide)
  | true =>
      show Derives .value _
      by_cases empty : texts = []
      · rw [empty]
        exact .emptyObject allBlank_nil
      · exact .tightObject (derives_intercalate .oneMember .spacedMembers all empty)

theorem judged_member (name : String) (judged : Judged .value good text) :
    Judged .member good (memberText (name, text)) := by
  have named := isString_writeString name
  have parts : (memberText (name, text)).toList
      = (writeString name).toList ++ ':' :: ' ' :: text.toList := by simp [memberText]
  unfold Judged
  rw [parts]
  cases good with
  | true => exact .spacedMember named judged
  | false =>
      have colon : ClosesStrings [':', ' '] := closesStrings_of_plain (by simp)
      exact (Foul.append_right judged colon).append_right named.clean.closesStrings

theorem judged_string (s : String) : Judged .value true (writeString s) :=
  judged_of_derives (.string (isString_writeString s))

theorem judged_bool (b : Bool) : Judged .value true (boolText b) := by
  cases b with
  | true => exact judged_of_derives .true
  | false => exact judged_of_derives .false

/-- The text of a number is derived if the number is finite, and is foul if not. -/
theorem judged_float (x : Binary64) : Judged .value x.isFinite (floatText x) := by
  cases x with
  | finite negative mantissa exponent =>
      exact judged_of_derives (.number (isNumber_floatText rfl))
  | nan =>
      show Foul ['N', 'a', 'N']
      exact foul_of_plain (by simp) (by simp)
  | infinite negative =>
      cases negative with
      | true =>
          show Foul ['-', 'I', 'n', 'f', 'i', 'n', 'i', 't', 'y']
          exact foul_of_plain (by simp) (by simp)
      | false =>
          show Foul ['I', 'n', 'f', 'i', 'n', 'i', 't', 'y']
          exact foul_of_plain (by simp) (by simp)

end Judgement

mutual

/-- The text that is written for a value is derived if JSON can express all of its numbers, and is
    foul if not. -/
theorem judged_write (value : Value) (encodable : isEncodable value = true) :
    ∃ text, write value = .ok text ∧ Judged .value (isExpressible value) text := by
  match value with
  | .null => exact ⟨_, rfl, judged_of_derives .null⟩
  | .bool b => exact ⟨_, rfl, judged_bool b⟩
  | .int n => exact ⟨_, rfl, judged_of_derives (.number (isNumber_intText n))⟩
  | .float x => exact ⟨_, rfl, judged_float x⟩
  | .text s => exact ⟨_, rfl, judged_string s⟩
  | .list items | .tuple items =>
      obtain ⟨texts, written, judged⟩ := allJudged_writeItems items encodable
      exact ⟨_, by rw [write, written]; rfl, judged_array judged⟩
  | .dict entries =>
      obtain ⟨texts, written, judged⟩ := allJudged_writeEntries entries encodable
      exact ⟨_, by rw [write, written]; rfl, judged_object judged⟩
  | .bytes _ | .set _ | .loop _ | .foreign _ => cases encodable

theorem allJudged_writeItems (items : List Value) (encodable : areEncodable items = true) :
    ∃ texts, writeItems items = .ok texts ∧ AllJudged .value (areExpressible items) texts := by
  match items with
  | [] => exact ⟨[], rfl, allJudged_nil⟩
  | item :: items =>
      obtain ⟨first, others⟩ := Bool.and_eq_true_iff.mp encodable
      obtain ⟨text, written, judged⟩ := judged_write item first
      obtain ⟨texts, writtens, allJudged⟩ := allJudged_writeItems items others
      exact ⟨text :: texts, by rw [writeItems, written, writtens]; rfl, allJudged.cons judged⟩

/-- The members that are written for several entries are judged together. -/
theorem allJudged_writeEntries (entries : List (Value × Value))
    (encodable : haveEncodable entries = true) :
    ∃ texts, writeEntries entries = .ok texts ∧
      AllJudged .member (haveExpressible entries) texts := by
  match entries with
  | [] => exact ⟨[], rfl, allJudged_nil⟩
  | (key, value) :: entries =>
      obtain ⟨first, others⟩ := Bool.and_eq_true_iff.mp encodable
      obtain ⟨hasName, hasText⟩ := Bool.and_eq_true_iff.mp first
      obtain ⟨name, named⟩ := Option.isSome_iff_exists.mp hasName
      obtain ⟨text, written, judged⟩ := judged_write value hasText
      obtain ⟨texts, writtens, allJudged⟩ := allJudged_writeEntries entries others
      refine ⟨memberText (name, text) :: texts, ?_, allJudged.cons (judged_member name judged)⟩
      simp only [writeEntries, named, written, writtens]
      rfl

end

theorem judged_of_write {value : Value} {text : String} (written : write value = .ok text) :
    Judged .value (isExpressible value) text := by
  cases encodable : isEncodable value with
  | true =>
      obtain ⟨again, same, judged⟩ := judged_write value encodable
      obtain rfl : again = text := Except.ok.inj (same.symm.trans written)
      exact judged
  | false =>
      obtain ⟨error, failed⟩ := write_of_not_encodable value encodable
      rw [failed] at written
      cases written

/-- A text that is judged is JSON only if it is good. -/
theorem Judged.isJson_iff {good : Bool} {text : String} (judged : Judged .value good text) :
    IsJson text.toList ↔ good = true := by
  cases good with
  | true =>
      have isJson := IsJson.mk allBlank_nil judged allBlank_nil
      rw [List.nil_append, List.append_nil] at isJson
      exact iff_of_true isJson rfl
  | false =>
      have noJson : ¬IsJson text.toList := fun isJson => isJson.clean.not_foul judged
      exact iff_of_false noJson Bool.false_ne_true

end ContainerWatch.Json
