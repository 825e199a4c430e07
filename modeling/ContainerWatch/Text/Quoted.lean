import ContainerWatch.Text.Digits
import ContainerWatch.Unicode.Printable

/-!
# Quoted texts

A quoted text stands between single quotes, or between double quotes if it holds a single quote
and no double one.  The delimiter and the backslash are escaped by a backslash, so are line feed,
carriage return and tab; every other character that is not printable is written by the digits of
its code point.
-/

namespace ContainerWatch.Text

/-- The delimiter of a text's quoted form. -/
def delimiter (text : List Char) : Char :=
  if '\'' ∈ text ∧ '"' ∉ text then '"' else '\''

/-- A code point in two, four or eight hexadecimal digits behind its introducing letter. -/
def codePointEscape (code : Nat) : List Char :=
  if code < 0x100 then '\\' :: 'x' :: fixedDigits 16 2 code
  else if code < 0x10000 then '\\' :: 'u' :: fixedDigits 16 4 code
  else '\\' :: 'U' :: fixedDigits 16 8 code

/-- A character between two delimiters. -/
def quotedChar (mark c : Char) : List Char :=
  if c = mark ∨ c = '\\' then ['\\', c]
  else if c = '\n' then ['\\', 'n']
  else if c = '\r' then ['\\', 'r']
  else if c = '\t' then ['\\', 't']
  else if Unicode.isPrintable c then [c]
  else codePointEscape c.toNat

/-- The quoted form of a text. -/
def quotedChars (text : List Char) : List Char :=
  let mark := delimiter text
  mark :: text.flatMap (quotedChar mark) ++ [mark]

/-- The quoted form of a string. -/
def quoted (text : String) : String := String.ofList (quotedChars text.toList)

/-- A byte between two delimiters; bytes of printable ASCII stand for themselves. -/
def quotedByte (mark : Char) (byte : Nat) : List Char :=
  if 0x7F ≤ byte then codePointEscape byte else quotedChar mark (Char.ofNat byte)

/-- The quoted form of a sequence of bytes. -/
def quotedBytes (bytes : List Nat) : String :=
  let mark := delimiter (bytes.map Char.ofNat)
  String.ofList ('b' :: mark :: bytes.flatMap (quotedByte mark) ++ [mark])

/-- A text with every character beyond ASCII written by the digits of its code point. -/
def asciiOnly (text : String) : String :=
  String.ofList (text.toList.flatMap fun c =>
    if c.toNat < 128 then [c] else codePointEscape c.toNat)

end ContainerWatch.Text
