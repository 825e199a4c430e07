import ContainerWatch.Proofs.Json.Numbers
import ContainerWatch.Proofs.Json.Strings

/-!
# What JSON texts read back as

A text denotes a value if it is read as that value wherever it stands.  Texts of arrays and objects
denote what is composed of what their items and members denote.  So the text that is written for a
value denotes the value, except that JSON has no tuples and no keys but strings.
-/

namespace ContainerWatch.Json

/-- A text denotes a value: it is printable, does not begin as the end of an array does, and is read
    as the value in front of whatever may follow one. -/
structure Denotes (text : String) (value : Value) : Prop where
  printable : Printable text.toList
  begins : ∃ c others, text.toList = c :: others ∧ isBlank c = false ∧ c ≠ ']'
  reads : ∀ fuel rest, text.length ≤ fuel → Ends rest →
    readValue? fuel (text.toList ++ rest) = some (value, rest)

def memberText (member : String × String) : String := writeString member.1 ++ ": " ++ member.2

/-- A name and a text are those of a member of a dictionary. -/
def DenotesMember (member : String × String) (entry : Value × Value) : Prop :=
  entry.1 = .text member.1 ∧ Denotes member.2 entry.2

/-! ## Blanks and ends -/

section Blanks

variable {rest text : List Char} {c : Char}

theorem ends_nil : Ends [] := nofun

theorem ends_comma : Ends (',' :: rest) := by
  rintro c ⟨⟩
  exact .inl rfl

theorem ends_bracket : Ends (']' :: rest) := by
  rintro c ⟨⟩
  exact .inr (.inl rfl)

theorem ends_brace : Ends ('\x7d' :: rest) := by
  rintro c ⟨⟩
  exact .inr (.inr rfl)

theorem skipBlanks_cons (visible : isBlank c = false) : skipBlanks (c :: rest) = c :: rest := by
  simp [skipBlanks, visible]

theorem skipBlanks_space (text : List Char) : skipBlanks (' ' :: text) = skipBlanks text := by
  simp [skipBlanks, isBlank]

theorem readValue?_space (fuel : Nat) (text : List Char) :
    readValue? fuel (' ' :: text) = readValue? fuel text := by
  cases fuel with
  | zero => simp [readValue?]
  | succ fuel => simp only [readValue?, skipBlanks_space]

theorem readItems?_space (fuel : Nat) (text : List Char) :
    readItems? fuel (' ' :: text) = readItems? fuel text := by
  cases fuel with
  | zero => simp [readItems?]
  | succ fuel => simp only [readItems?, readValue?_space]

theorem readMembers?_space (fuel : Nat) (text : List Char) :
    readMembers? fuel (' ' :: text) = readMembers? fuel text := by
  cases fuel with
  | zero => simp [readMembers?]
  | succ fuel => simp only [readMembers?, skipBlanks_space]

end Blanks

/-! ## Values without parts -/

section Plain

variable {text : String} {value : Value} {c : Char} {others : List Char}

/-- A text denotes a value without parts if it is read as that, whatever follows. -/
theorem denotes_of_plain (printable : Printable text.toList) (begins : text.toList = c :: others)
    (visible : isBlank c = false) (noEnd : c ≠ ']')
    (reads : ∀ fuel rest, Ends rest →
      readValue? (fuel + 1) (text.toList ++ rest) = some (value, rest)) : Denotes text value where
  printable := printable
  begins := ⟨c, others, begins, visible, noEnd⟩
  reads := by
    intro fuel rest enough ends
    cases fuel with
    | zero =>
        rw [← String.length_toList, begins, List.length_cons] at enough
        omega
    | succ fuel => exact reads fuel rest ends

theorem denotes_null : Denotes "null" .null :=
  denotes_of_plain (by decide) rfl rfl (by decide) fun _ _ _ => rfl

theorem denotes_bool (b : Bool) : Denotes (boolText b) (.bool b) := by
  cases b with
  | true => exact denotes_of_plain (by decide) rfl rfl (by decide) fun _ _ _ => rfl
  | false => exact denotes_of_plain (by decide) rfl rfl (by decide) fun _ _ _ => rfl

theorem denotes_text (s : String) : Denotes (writeString s) (.text s) := by
  obtain ⟨body, begins, reads⟩ := exists_writeString s
  refine denotes_of_plain (printable_writeString s) begins rfl (by decide) fun fuel rest _ => ?_
  rw [begins, List.cons_append, readValue?, skipBlanks_cons rfl]
  simp [reads]

/-- A digit or a minus sign is no blank and begins nothing but a number. -/
theorem ne_of_number (number : c.isDigit = true ∨ c = '-') : isBlank c = false ∧ c ≠ ']' ∧
    c ≠ '\x7b' ∧ c ≠ '[' ∧ c ≠ '"' ∧ c ≠ 't' ∧ c ≠ 'f' ∧ c ≠ 'n' := by
  refine ⟨?_, ?_, ?_, ?_, ?_, ?_, ?_, ?_⟩
  · rw [Bool.eq_false_iff]
    intro blank
    simp only [isBlank, Bool.or_eq_true, beq_iff_eq] at blank
    rcases blank with ((rfl | rfl) | rfl) | rfl <;> revert number <;> decide
  all_goals
    rintro rfl
    revert number
    decide

/-- What begins with a digit or a minus sign is read as a number. -/
theorem readValue?_of_number (fuel : Nat) (number : c.isDigit = true ∨ c = '-') :
    readValue? (fuel + 1) (c :: others) = readNumber? (c :: others) := by
  obtain ⟨visible, _, noObject, noArray, noString, noTrue, noFalse, noNull⟩ := ne_of_number number
  rw [readValue?, skipBlanks_cons visible]
  split <;> simp_all

theorem denotes_of_isNumeral (isNumeral : IsNumeral text.toList value) : Denotes text value := by
  obtain ⟨c, others, begins, number⟩ := isNumeral.exists_head
  have kind : isBlank c = false ∧ c ≠ ']' := ⟨(ne_of_number number).1, (ne_of_number number).2.1⟩
  refine denotes_of_plain isNumeral.printable begins kind.1 kind.2 fun fuel rest ends => ?_
  have read := isNumeral.readNumber? ends
  rw [begins, List.cons_append] at read ⊢
  rw [readValue?_of_number fuel number, read]

end Plain

/-! ## Arrays and objects -/

section Composed

variable {texts : List String} {values : List Value} {members : List (String × String)}
  {entries : Entries} {rest : List Char}

theorem toList_intercalate (first second : String) (others : List String) :
    (String.intercalate ", " (first :: second :: others)).toList
      = first.toList ++ ',' :: ' ' :: (String.intercalate ", " (second :: others)).toList := by
  simp [String.intercalate_cons_cons]

theorem length_intercalate (first second : String) (others : List String) :
    (String.intercalate ", " (first :: second :: others)).length
      = first.length + 2 + (String.intercalate ", " (second :: others)).length := by
  rw [String.intercalate_cons_cons, String.length_append, String.length_append]
  rfl

theorem printable_intercalate (all : ∀ text ∈ texts, Printable text.toList) :
    Printable (String.intercalate ", " texts).toList := by
  induction texts with
  | nil => exact printable_nil
  | cons first texts ih =>
      have head := all first List.mem_cons_self
      have tail := ih fun text member => all text (List.mem_cons_of_mem first member)
      cases texts with
      | nil => rwa [String.intercalate_singleton]
      | cons second others =>
          rw [toList_intercalate]
          simp only [printable_append, printable_cons]
          exact ⟨head, by decide, by decide, tail⟩

theorem exists_intercalate {first : String} {c : Char} {others : List Char}
    (begins : first.toList = c :: others) (texts : List String) :
    ∃ more, (String.intercalate ", " (first :: texts)).toList = c :: more := by
  cases texts with
  | nil => exact ⟨others, by rw [String.intercalate_singleton, begins]⟩
  | cons second texts => exact ⟨_, by rw [toList_intercalate, begins, List.cons_append]⟩

/-- The items of an array are read up to its closing bracket. -/
theorem readItems?_of_denotes (all : List.Forall₂ Denotes texts values) (nonempty : texts ≠ [])
    (rest : List Char) (fuel : Nat) (enough : (String.intercalate ", " texts).length < fuel) :
    readItems? fuel ((String.intercalate ", " texts).toList ++ ']' :: rest)
      = some (values, rest) := by
  induction all generalizing fuel with
  | nil => exact absurd rfl nonempty
  | @cons text value texts values denotes all ih =>
      obtain ⟨fuel, rfl⟩ : ∃ less, fuel = less + 1 := ⟨fuel - 1, by omega⟩
      cases all with
      | nil =>
          rw [String.intercalate_singleton] at enough ⊢
          have read := denotes.reads fuel (']' :: rest) (by omega) ends_bracket
          simp [readItems?, read, skipBlanks_cons (show isBlank ']' = false from rfl)]
      | @cons second _ texts _ _ _ =>
          rw [length_intercalate] at enough
          have read := denotes.reads fuel
            (',' :: ' ' :: ((String.intercalate ", " (second :: texts)).toList ++ ']' :: rest))
            (by omega) ends_comma
          have others := ih (List.cons_ne_nil _ _) fuel (by omega)
          rw [toList_intercalate, List.append_assoc, List.cons_append, List.cons_append, readItems?,
            read]
          simp only [skipBlanks_cons (show isBlank ',' = false from rfl), readItems?_space, others,
            Option.map_some]

theorem toList_array (inner : String) :
    ("[" ++ inner ++ "]").toList = '[' :: (inner.toList ++ [']']) := by
  simp

theorem denotes_array (all : List.Forall₂ Denotes texts values) :
    Denotes ("[" ++ String.intercalate ", " texts ++ "]") (.list values) where
  printable := by
    have items : ∀ text ∈ texts, Printable text.toList := by
      induction all with
      | nil => nofun
      | cons denotes _ ih => exact List.forall_mem_cons.mpr ⟨denotes.printable, ih⟩
    rw [toList_array]
    simp only [printable_cons, printable_append, printable_nil, and_true]
    exact ⟨by decide, printable_intercalate items, by decide⟩
  begins := ⟨'[', _, toList_array _, rfl, by decide⟩
  reads := by
    intro fuel rest enough _
    rw [← String.length_toList, toList_array, List.length_cons, List.length_append,
      List.length_singleton, String.length_toList] at enough
    obtain ⟨fuel, rfl⟩ : ∃ less, fuel = less + 1 := ⟨fuel - 1, by omega⟩
    rw [toList_array, List.cons_append, List.append_assoc, List.singleton_append, readValue?,
      skipBlanks_cons rfl]
    cases all with
    | nil => simp [skipBlanks, isBlank]
    | @cons first value texts values denotes all =>
        obtain ⟨c, others, begins, visible, noEnd⟩ := denotes.begins
        obtain ⟨more, joined⟩ := exists_intercalate begins texts
        have read := readItems?_of_denotes (.cons denotes all) (List.cons_ne_nil _ _) rest fuel
          (by omega)
        rw [joined, List.cons_append] at read ⊢
        simp only [skipBlanks_cons visible]
        split
        case h_1 close => exact absurd (List.cons.inj close).1 noEnd
        case h_2 => rw [read, Option.map_some]

theorem memberText_begins (member : String × String) :
    ∃ body, (memberText member).toList = '"' :: (body ++ ':' :: ' ' :: member.2.toList) ∧
      ∀ rest, readStringBody [] (body ++ rest) = some (member.1.toList, rest) := by
  obtain ⟨body, begins, reads⟩ := exists_writeString member.1
  exact ⟨body, by simp [memberText, begins], reads⟩

/-- A member is read up to the closing brace behind it, or with the members behind a comma. -/
theorem readMembers?_memberText {member : String × String} {entry : Value × Value}
    (denotes : DenotesMember member entry) {fuel : Nat} (enough : member.2.length ≤ fuel)
    (rest : List Char) :
    readMembers? (fuel + 1) ((memberText member).toList ++ '\x7d' :: rest) = some ([entry], rest) ∧
    readMembers? (fuel + 1) ((memberText member).toList ++ ',' :: rest)
      = (readMembers? fuel rest).map fun (members, rest) => (entry :: members, rest) := by
  obtain ⟨named, denotes⟩ := denotes
  obtain ⟨body, begins, reads⟩ := memberText_begins member
  have key : (Value.text (String.ofList member.1.toList), entry.2) = entry := by
    rw [String.ofList_toList, ← named]
  have colon : isBlank ':' = false := rfl
  constructor
  · have read := denotes.reads fuel ('\x7d' :: rest) enough ends_brace
    rw [begins, List.cons_append, List.append_assoc, readMembers?, skipBlanks_cons rfl]
    simp only [reads, List.cons_append, skipBlanks_cons colon, readValue?_space, read, key,
      skipBlanks_cons (show isBlank '\x7d' = false from rfl)]
  · have read := denotes.reads fuel (',' :: rest) enough ends_comma
    rw [begins, List.cons_append, List.append_assoc, readMembers?, skipBlanks_cons rfl]
    simp only [reads, List.cons_append, skipBlanks_cons colon, readValue?_space, read, key,
      skipBlanks_cons (show isBlank ',' = false from rfl)]

/-- The members of an object are read up to its closing brace. -/
theorem readMembers?_of_denotes (all : List.Forall₂ DenotesMember members entries)
    (nonempty : members ≠ []) (rest : List Char) (fuel : Nat)
    (enough : (String.intercalate ", " (members.map memberText)).length < fuel) :
    readMembers? fuel ((String.intercalate ", " (members.map memberText)).toList ++ '\x7d' :: rest)
      = some (entries, rest) := by
  induction all generalizing fuel with
  | nil => exact absurd rfl nonempty
  | @cons member entry members entries denotes all ih =>
      obtain ⟨fuel, rfl⟩ : ∃ less, fuel = less + 1 := ⟨fuel - 1, by omega⟩
      have short : member.2.length ≤ (memberText member).length := by
        rw [memberText, String.length_append]
        omega
      cases all with
      | nil =>
          simp only [List.map_cons, List.map_nil, String.intercalate_singleton] at enough ⊢
          exact (readMembers?_memberText denotes (by omega) rest).1
      | @cons second _ members _ _ _ =>
          simp only [List.map_cons] at enough ih ⊢
          rw [length_intercalate] at enough
          have others := ih (List.cons_ne_nil _ _) fuel (by omega)
          rw [toList_intercalate, List.append_assoc, List.cons_append, List.cons_append,
            (readMembers?_memberText denotes (by omega) _).2, readMembers?_space, others,
            Option.map_some]

theorem toList_object (inner : String) :
    ("\x7b" ++ inner ++ "\x7d").toList = '\x7b' :: (inner.toList ++ ['\x7d']) := by
  simp

/-- The text of an object denotes the dictionary of what its members denote. -/
theorem denotes_object (all : List.Forall₂ DenotesMember members entries) :
    Denotes ("\x7b" ++ String.intercalate ", " (members.map memberText) ++ "\x7d")
      (.dict (Entries.ofPairs entries)) where
  printable := by
    have texts : ∀ text ∈ members.map memberText, Printable text.toList := by
      induction all with
      | nil => nofun
      | @cons member _ _ _ denotes _ ih =>
          have printable : Printable (memberText member).toList := by
            simpa [memberText] using ⟨printable_writeString member.1, denotes.2.printable⟩
          exact List.forall_mem_cons.mpr ⟨printable, ih⟩
    rw [toList_object]
    simp only [printable_cons, printable_append, printable_nil, and_true]
    exact ⟨by decide, printable_intercalate texts, by decide⟩
  begins := ⟨'\x7b', _, toList_object _, rfl, by decide⟩
  reads := by
    intro fuel rest enough _
    rw [← String.length_toList, toList_object, List.length_cons, List.length_append,
      List.length_singleton, String.length_toList] at enough
    obtain ⟨fuel, rfl⟩ : ∃ less, fuel = less + 1 := ⟨fuel - 1, by omega⟩
    rw [toList_object, List.cons_append, List.append_assoc, List.singleton_append, readValue?,
      skipBlanks_cons rfl]
    cases all with
    | nil => simp [skipBlanks, isBlank, Entries.ofPairs]
    | @cons member entry members entries denotes all =>
        obtain ⟨body, begins, _⟩ := memberText_begins member
        obtain ⟨more, joined⟩ := exists_intercalate begins (members.map memberText)
        have read := readMembers?_of_denotes (.cons denotes all) (List.cons_ne_nil _ _) rest fuel
          (by omega)
        rw [List.map_cons, joined, List.cons_append] at read ⊢
        simp only [skipBlanks_cons (show isBlank '"' = false from rfl)]
        split
        case h_1 close => exact absurd (List.cons.inj close).1 (by decide)
        case h_2 => rw [read, Option.map_some]

end Composed

/-! ## Whole texts -/

/-- A text that denotes a value is read as the value. -/
theorem read?_of_denotes {text : String} {value : Value} (denotes : Denotes text value) :
    read? text = some value := by
  have reads := denotes.reads (text.toList.length + 1) []
    (Nat.le_succ_of_le String.length_toList.ge) ends_nil
  rw [List.append_nil] at reads
  simp [read?, reads, skipBlanks]

end ContainerWatch.Json
