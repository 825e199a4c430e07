import ContainerWatch.Text.Digits
import ContainerWatch.Text.Pieces
import ContainerWatch.Unicode.Boundary
import ContainerWatch.Unicode.NameTable

/-!
# Characters by name

The character that a name stands for.  Most names are in a table, whose names may be written in
small letters.  The names of other characters follow a rule: a Hangul syllable is named for its
sounds, an ideograph for its code point, a variation selector for its number.
-/

namespace ContainerWatch.Unicode

/-- Whether a character of a run begins a name. -/
def beginsName (c : Char) : Bool := 'a' ≤ c && c ≤ 'z'

/-- The names of a run: how many words each shares with the name before it, and its other words. -/
def namesOfRun (run : List Char) : List (Nat × List Char) :=
  (run.foldr
    (fun c (names, text) =>
      if beginsName c then ((c.toNat - 'a'.toNat, text) :: names, []) else (names, c :: text))
    ([], [])).1

/-- The words of a text between blanks and line ends. -/
def wordsOf (text : List Char) : List (List Char) :=
  (Text.piecesAt ' ' (text.map fun c => if c = '\n' then ' ' else c)).filter (!·.isEmpty)

/-- The place of a name, given by its words, among the names of a run behind a given name. -/
def placeIn? (words before : List (List Char)) (place : Nat) :
    List (Nat × List Char) → Option Nat
  | [] => none
  | (shared, text) :: names =>
      let own := before.take shared ++ wordsOf text
      if own = words then some place else placeIn? words own (place + 1) names

/-- The code point of a name in the table, in capitals. -/
def tabledChar? (name : List Char) : Option Nat :=
  let words := Text.piecesAt ' ' name
  nameRuns.findSome? fun (start, run) =>
    (placeIn? words [] 0 (namesOfRun run.toList)).map (start + ·)

/-- The code point of a further name, in capitals. -/
def aliasedChar? (name : List Char) : Option Nat :=
  (nameAliases.find? fun (_, text) => text.toList = name).map (·.1)

/-- The rest of a text behind a given beginning. -/
def afterText? (beginning text : List Char) : Option (List Char) :=
  if beginning.isPrefixOf text then some (text.drop beginning.length) else none

/-- The number that decimal digits without a leading zero write. -/
def plainNumber? (digits : List Char) : Option Nat :=
  let number := digits.foldl (fun total c => 10 * total + (c.toNat - '0'.toNat)) 0
  if Text.decimal number = digits then some number else none

/-- The code point of a variation selector by its number. -/
def selectorChar? (name : List Char) : Option Nat := do
  let number ← plainNumber? (← afterText? "VS".toList name)
  if number = 0 then none
  else if number ≤ 16 then some (0xFE00 + (number - 1))
  else if number ≤ 256 then some (0xE0100 + (number - 17))
  else none

/-- The value of a hexadecimal digit in capitals. -/
def capitalHexValue? (c : Char) : Option Nat :=
  if '0' ≤ c ∧ c ≤ '9' then some (c.toNat - '0'.toNat)
  else if 'A' ≤ c ∧ c ≤ 'F' then some (c.toNat - 'A'.toNat + 10)
  else none

/-- A code point in four or five hexadecimal digits. -/
def codeOf? (digits : List Char) : Option Nat :=
  if digits.length = 4 ∨ digits.length = 5 then
    digits.foldlM (fun total c => (capitalHexValue? c).map (16 * total + ·)) 0
  else
    none

/-- The boundaries of the characters that are named for their code points, behind the text with
    which the name begins. -/
def numberedNames : List (String × List Nat) := [
  ("CJK COMPATIBILITY IDEOGRAPH-", [63744, 64110, 64112, 64218, 194560, 195102]),
  ("KHITAN SMALL SCRIPT CHARACTER-", [101120, 101590]),
  ("NUSHU CHARACTER-", [110960, 111356])]

/-- Boundaries of the unified ideographs. -/
def ideographBounds : List Nat := [
  0x3400, 0x4DC0, 0x4E00, 0xA000, 0x20000, 0x2A6E0, 0x2A700, 0x2B739, 0x2B740, 0x2B81E, 0x2B820,
  0x2CEA2, 0x2CEB0, 0x2EBE1, 0x30000, 0x3134B]

/-- The code point that hexadecimal digits write, if it is in a class. -/
def codeWithin? (bounds : List Nat) (digits : List Char) : Option Nat := do
  let code ← codeOf? digits
  if within bounds code then some code else none

/-- The code point of a character that is named for it, without leading zeros. -/
def numberedChar? (name : List Char) : Option Nat :=
  numberedNames.findSome? fun (beginning, bounds) => do
    let digits ← afterText? beginning.toList name
    if digits.head? = some '0' then none else codeWithin? bounds digits

/-- The sounds with which a Hangul syllable begins. -/
def hangulLeads : List String :=
  ["G", "GG", "N", "D", "DD", "R", "M", "B", "BB", "S", "SS", "", "J", "JJ", "C", "K", "T", "P",
    "H"]

/-- The vowels of Hangul syllables. -/
def hangulVowels : List String :=
  ["A", "AE", "YA", "YAE", "EO", "E", "YEO", "YE", "O", "WA", "WAE", "OE", "YO", "U", "WEO", "WE",
    "WI", "YU", "EU", "YI", "I"]

/-- The sounds with which a Hangul syllable ends. -/
def hangulTails : List String :=
  ["", "G", "GG", "GS", "N", "NJ", "NH", "D", "L", "LG", "LM", "LB", "LS", "LT", "LP", "LH", "M",
    "B", "BS", "S", "SS", "NG", "J", "C", "K", "T", "P", "H"]

/-- The place of the longest of some sounds with which a text begins, and the rest of the text. -/
def longestSound? (sounds : List String) (text : List Char) : Option (Nat × List Char) :=
  let found := sounds.zipIdx.filterMap fun (sound, place) =>
    (afterText? sound.toList text).map fun rest => (place, rest)
  found.foldl
    (fun best sound =>
      match best with
      | none => some sound
      | some (_, rest) => if sound.2.length < rest.length then some sound else best)
    none

/-- The code point of a Hangul syllable by its sounds. -/
def hangulChar? (sounds : List Char) : Option Nat := do
  let (lead, rest) ← longestSound? hangulLeads sounds
  let (vowel, rest) ← longestSound? hangulVowels rest
  let (tail, rest) ← longestSound? hangulTails rest
  if rest.isEmpty then some (0xAC00 + (lead * 21 + vowel) * 28 + tail) else none

/-- The code point of a character that a name in capitals or in small letters stands for. -/
def listedChar? (name : List Char) : Option Nat :=
  let capitals := name.map Char.toUpper
  (((tabledChar? capitals).or (aliasedChar? capitals)).or (selectorChar? capitals)).or
    (numberedChar? capitals)

/-- The code point of a named character.  The names of Hangul syllables and of unified ideographs
    are written in capitals only. -/
def charNamed? (name : List Char) : Option Nat :=
  match afterText? "HANGUL SYLLABLE ".toList name with
  | some sounds => hangulChar? sounds
  | none =>
      match afterText? "CJK UNIFIED IDEOGRAPH-".toList name with
      | some digits => codeWithin? ideographBounds digits
      | none => listedChar? name

end ContainerWatch.Unicode
