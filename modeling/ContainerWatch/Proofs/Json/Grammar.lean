import Mathlib.Data.List.Basic

/-!
# The grammar of JSON

Which texts are JSON, as rules by which they are derived, without any regard to how they are written
or read.  Outside of its strings no JSON text has an `N` or an `I`, since `null`, `true`, `false` and
the marks of exponents are the only letters there.  So no JSON text names a number that is none, or
that is infinite.
-/

namespace ContainerWatch.Json

/-! ## Numbers and strings -/

/-- Blanks, which may stand around values and marks. -/
def AllBlank (text : List Char) : Prop := ∀ c ∈ text, c = ' ' ∨ c = '\t' ∨ c = '\n' ∨ c = '\r'

/-- At least one digit. -/
def IsDigits (text : List Char) : Prop := text ≠ [] ∧ ∀ c ∈ text, c.isDigit = true

/-- The digits in front of the point: a zero, or digits that do not begin with one. -/
inductive IsWhole : List Char → Prop
  | zero : IsWhole ['0']
  | positive {first : Char} {digits : List Char} (digit : first.isDigit = true)
      (nonzero : first ≠ '0') (others : ∀ c ∈ digits, c.isDigit = true) : IsWhole (first :: digits)

/-- What may stand between the digits in front of the point and the exponent. -/
inductive IsFraction : List Char → Prop
  | absent : IsFraction []
  | present {digits : List Char} (all : IsDigits digits) : IsFraction ('.' :: digits)

/-- What may stand at the end of a number. -/
inductive IsExponent : List Char → Prop
  | absent : IsExponent []
  | present {mark : Char} {sign digits : List Char} (marked : mark = 'e' ∨ mark = 'E')
      (signed : sign = [] ∨ sign = ['+'] ∨ sign = ['-']) (all : IsDigits digits) :
      IsExponent (mark :: (sign ++ digits))

/-- A number. -/
inductive IsNumber : List Char → Prop
  | mk {sign whole fraction exponent : List Char} (signed : sign = [] ∨ sign = ['-'])
      (isWhole : IsWhole whole) (isFraction : IsFraction fraction)
      (isExponent : IsExponent exponent) : IsNumber (sign ++ (whole ++ (fraction ++ exponent)))

/-- A hexadecimal digit. -/
def IsHexDigit (c : Char) : Prop := c.isDigit = true ∨ 'a' ≤ c ∧ c ≤ 'f' ∨ 'A' ≤ c ∧ c ≤ 'F'

/-- What stands for a character inside a string, or for one half of it. -/
inductive IsCharacter : List Char → Prop
  | plain {c : Char} (visible : 0x20 ≤ c.toNat) (noMark : c ≠ '"') (noEscape : c ≠ '\\') :
      IsCharacter [c]
  | escape {c : Char} (simple : c ∈ ['"', '\\', '/', 'b', 'f', 'n', 'r', 't']) :
      IsCharacter ['\\', c]
  | unit {a b c d : Char} (hex : IsHexDigit a ∧ IsHexDigit b ∧ IsHexDigit c ∧ IsHexDigit d) :
      IsCharacter ['\\', 'u', a, b, c, d]

/-- A string. -/
inductive IsString : List Char → Prop
  | mk {characters : List (List Char)} (all : ∀ text ∈ characters, IsCharacter text) :
      IsString ('"' :: (characters.flatten ++ ['"']))

/-! ## Values -/

/-- What the rules derive. -/
inductive Symbol where
  | value
  /-- The items of an array, at least one. -/
  | items
  /-- A member of an object. -/
  | member
  /-- The members of an object, at least one. -/
  | members

/-- The rules by which values are derived. -/
inductive Derives : Symbol → List Char → Prop
  | null : Derives .value ['n', 'u', 'l', 'l']
  | true : Derives .value ['t', 'r', 'u', 'e']
  | false : Derives .value ['f', 'a', 'l', 's', 'e']
  | number {text : List Char} (isNumber : IsNumber text) : Derives .value text
  | string {text : List Char} (isString : IsString text) : Derives .value text
  | emptyArray {blanks : List Char} (blank : AllBlank blanks) :
      Derives .value ('[' :: (blanks ++ [']']))
  | array {before items after : List Char} (blankBefore : AllBlank before)
      (derives : Derives .items items) (blankAfter : AllBlank after) :
      Derives .value ('[' :: (before ++ (items ++ (after ++ [']']))))
  | emptyObject {blanks : List Char} (blank : AllBlank blanks) :
      Derives .value ('\x7b' :: (blanks ++ ['\x7d']))
  | object {before members after : List Char} (blankBefore : AllBlank before)
      (derives : Derives .members members) (blankAfter : AllBlank after) :
      Derives .value ('\x7b' :: (before ++ (members ++ (after ++ ['\x7d']))))
  | oneItem {item : List Char} (derives : Derives .value item) : Derives .items item
  | moreItems {item before after items : List Char} (first : Derives .value item)
      (blankBefore : AllBlank before) (blankAfter : AllBlank after)
      (others : Derives .items items) : Derives .items (item ++ (before ++ ',' :: (after ++ items)))
  | member {name before after value : List Char} (named : IsString name)
      (blankBefore : AllBlank before) (blankAfter : AllBlank after)
      (derives : Derives .value value) :
      Derives .member (name ++ (before ++ ':' :: (after ++ value)))
  | oneMember {member : List Char} (derives : Derives .member member) : Derives .members member
  | moreMembers {member before after members : List Char} (first : Derives .member member)
      (blankBefore : AllBlank before) (blankAfter : AllBlank after)
      (others : Derives .members members) :
      Derives .members (member ++ (before ++ ',' :: (after ++ members)))

/-- A JSON text: a value with blanks around it. -/
inductive IsJson : List Char → Prop
  | mk {before value after : List Char} (blankBefore : AllBlank before)
      (derives : Derives .value value) (blankAfter : AllBlank after) :
      IsJson (before ++ (value ++ after))

theorem allBlank_nil : AllBlank [] := by simp [AllBlank]

theorem allBlank_space : AllBlank [' '] := by simp [AllBlank]

/-! ## A space behind each comma and colon -/

section Layout

variable {name value first items members : List Char}

theorem Derives.tightArray (derives : Derives .items items) :
    Derives .value ('[' :: (items ++ [']'])) := by
  have array := Derives.array allBlank_nil derives allBlank_nil
  simpa using array

theorem Derives.tightObject (derives : Derives .members members) :
    Derives .value ('\x7b' :: (members ++ ['\x7d'])) := by
  have object := Derives.object allBlank_nil derives allBlank_nil
  simpa using object

theorem Derives.spacedItems (derives : Derives .value first) (others : Derives .items items) :
    Derives .items (first ++ ',' :: ' ' :: items) := by
  have both := Derives.moreItems derives allBlank_nil allBlank_space others
  simpa using both

theorem Derives.spacedMembers (derives : Derives .member first)
    (others : Derives .members members) : Derives .members (first ++ ',' :: ' ' :: members) := by
  have both := Derives.moreMembers derives allBlank_nil allBlank_space others
  simpa using both

theorem Derives.spacedMember (named : IsString name) (derives : Derives .value value) :
    Derives .member (name ++ ':' :: ' ' :: value) := by
  have member := Derives.member named allBlank_nil allBlank_space derives
  simpa using member

end Layout

/-! ## Outside of strings -/

/-- Where a scan of a text is. -/
inductive Scan where
  | outside
  | inside
  /-- Behind the mark of an escape, inside a string. -/
  | escaped

/-- What a text has outside of its strings. -/
def bare : Scan → List Char → List Char
  | _, [] => []
  | .outside, c :: text => if c = '"' then bare .inside text else c :: bare .outside text
  | .inside, c :: text =>
      if c = '"' then bare .outside text
      else if c = '\\' then bare .escaped text
      else bare .inside text
  | .escaped, _ :: text => bare .inside text

/-- A text that closes all of its strings, with what it has outside of them. -/
def Scans (text seen : List Char) : Prop :=
  ∀ rest, bare .outside (text ++ rest) = seen ++ bare .outside rest

/-- A text that closes all of its strings. -/
def ClosesStrings (text : List Char) : Prop := ∃ seen, Scans text seen

/-- A text that closes all of its strings and has neither an `N` nor an `I` outside of them. -/
def Clean (text : List Char) : Prop := ∃ seen, Scans text seen ∧ 'N' ∉ seen ∧ 'I' ∉ seen

variable {text first second : List Char} {symbol : Symbol}

/-- Texts that close their strings do so one behind the other. -/
theorem Scans.append {seenFirst seenSecond : List Char} (scans : Scans first seenFirst)
    (scansToo : Scans second seenSecond) : Scans (first ++ second) (seenFirst ++ seenSecond) := by
  intro rest
  rw [List.append_assoc, scans, scansToo, List.append_assoc]

theorem scans_of_plain (plain : ∀ c ∈ text, c ≠ '"') : Scans text text := by
  intro rest
  induction text with
  | nil => rfl
  | cons c text ih =>
      obtain ⟨noMark, others⟩ := List.forall_mem_cons.mp plain
      rw [List.cons_append, bare, if_neg noMark, ih others, List.cons_append]

theorem closesStrings_of_plain (plain : ∀ c ∈ text, c ≠ '"') : ClosesStrings text :=
  ⟨text, scans_of_plain plain⟩

theorem ClosesStrings.append (closes : ClosesStrings first) (closesToo : ClosesStrings second) :
    ClosesStrings (first ++ second) := by
  obtain ⟨seen, scans⟩ := closes
  obtain ⟨seenToo, scansToo⟩ := closesToo
  exact ⟨seen ++ seenToo, scans.append scansToo⟩

theorem Scans.unique {seen other : List Char} (scans : Scans text seen)
    (scansToo : Scans text other) : seen = other := by
  have same := (scans []).symm.trans (scansToo [])
  simpa [bare] using same

/-- What stands for a character inside a string does not end the string. -/
theorem IsCharacter.bare_inside (isCharacter : IsCharacter text) (rest : List Char) :
    bare .inside (text ++ rest) = bare .inside rest := by
  cases isCharacter with
  | plain visible noMark noEscape => simp [bare, noMark, noEscape]
  | escape simple => simp [bare]
  | unit hex =>
      have plain : ∀ c, IsHexDigit c → c ≠ '"' ∧ c ≠ '\\' := by
        rintro c isHex
        refine ⟨?_, ?_⟩ <;> rintro rfl <;> revert isHex <;> unfold IsHexDigit <;> decide
      obtain ⟨a, b, c, d⟩ := hex
      simp [bare, plain _ a, plain _ b, plain _ c, plain _ d]

/-- Nothing is seen of a string. -/
theorem IsString.scans (isString : IsString text) : Scans text [] := by
  obtain ⟨all⟩ := isString
  rename_i characters
  intro rest
  rw [List.cons_append, bare, if_pos rfl, List.nil_append]
  induction characters with
  | nil => simp [bare]
  | cons character characters ih =>
      obtain ⟨isCharacter, others⟩ := List.forall_mem_cons.mp all
      rw [List.flatten_cons, List.append_assoc, List.append_assoc, isCharacter.bare_inside,
        ← List.append_assoc]
      exact ih others

/-! ## Clean texts -/

theorem Clean.append (clean : Clean first) (cleanToo : Clean second) : Clean (first ++ second) := by
  obtain ⟨seen, scans, noN, noI⟩ := clean
  obtain ⟨seenToo, scansToo, noNToo, noIToo⟩ := cleanToo
  refine ⟨seen ++ seenToo, scans.append scansToo, ?_, ?_⟩
  · simp [noN, noNToo]
  · simp [noI, noIToo]

theorem clean_of_plain (plain : ∀ c ∈ text, c ≠ '"' ∧ c ≠ 'N' ∧ c ≠ 'I') : Clean text :=
  ⟨text, scans_of_plain fun c member => (plain c member).1,
    fun member => (plain _ member).2.1 rfl, fun member => (plain _ member).2.2 rfl⟩

/-- A character in front of a clean text leaves it clean, unless it begins a string or is one of the
    letters. -/
theorem Clean.cons {c : Char} (plain : c ≠ '"' ∧ c ≠ 'N' ∧ c ≠ 'I') (clean : Clean text) :
    Clean (c :: text) := by
  have head : Clean [c] := clean_of_plain (by simpa using plain)
  exact head.append clean

theorem AllBlank.clean (blank : AllBlank text) : Clean text := by
  refine clean_of_plain fun c member => ?_
  rcases blank c member with rfl | rfl | rfl | rfl <;> decide

theorem clean_of_isDigit (all : ∀ c ∈ text, c.isDigit = true) : Clean text := by
  refine clean_of_plain fun c member => ?_
  have digit := all c member
  refine ⟨?_, ?_, ?_⟩ <;> rintro rfl <;> cases digit

theorem IsNumber.clean (isNumber : IsNumber text) : Clean text := by
  obtain ⟨signed, isWhole, isFraction, isExponent⟩ := isNumber
  refine .append ?_ (.append ?_ (.append ?_ ?_))
  · rcases signed with rfl | rfl <;> exact clean_of_plain (by simp)
  · cases isWhole with
    | zero => exact clean_of_plain (by simp)
    | positive digit _ others => exact clean_of_isDigit (List.forall_mem_cons.mpr ⟨digit, others⟩)
  · cases isFraction with
    | absent => exact clean_of_plain nofun
    | present all => exact .cons (by decide) (clean_of_isDigit all.2)
  · cases isExponent with
    | absent => exact clean_of_plain nofun
    | present marked signed all =>
        refine .cons ?_ (.append ?_ (clean_of_isDigit all.2))
        · rcases marked with rfl | rfl <;> decide
        · rcases signed with rfl | rfl | rfl <;> exact clean_of_plain (by simp)

theorem IsString.clean (isString : IsString text) : Clean text := ⟨[], isString.scans, nofun, nofun⟩

/-- Whatever the rules derive is clean. -/
theorem Derives.clean (derives : Derives symbol text) : Clean text := by
  have closing (c : Char) (plain : c ≠ '"' ∧ c ≠ 'N' ∧ c ≠ 'I') : Clean [c] :=
    clean_of_plain (by simpa using plain)
  induction derives with
  | null | true | false => exact clean_of_plain (by simp)
  | number isNumber => exact isNumber.clean
  | string isString => exact isString.clean
  | emptyArray blank | emptyObject blank =>
      exact .cons (by decide) (blank.clean.append (closing _ (by decide)))
  | array blankBefore _ blankAfter clean | object blankBefore _ blankAfter clean =>
      exact .cons (by decide) (blankBefore.clean.append
        (clean.append (blankAfter.clean.append (closing _ (by decide)))))
  | oneItem _ clean | oneMember _ clean => exact clean
  | moreItems _ blankBefore blankAfter _ first others
  | moreMembers _ blankBefore blankAfter _ first others =>
      exact first.append (blankBefore.clean.append
        (.cons (by decide) (blankAfter.clean.append others)))
  | member named blankBefore blankAfter _ clean =>
      exact named.clean.append (blankBefore.clean.append
        (.cons (by decide) (blankAfter.clean.append clean)))

theorem IsJson.clean (isJson : IsJson text) : Clean text := by
  obtain ⟨blankBefore, derives, blankAfter⟩ := isJson
  exact blankBefore.clean.append (derives.clean.append blankAfter.clean)

end ContainerWatch.Json
