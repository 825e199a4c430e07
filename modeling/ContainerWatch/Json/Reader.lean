import ContainerWatch.Value.Basic

/-!
# JSON input

A strict reader of JSON texts: white space only where the grammar has it, no leading zeros, no
control characters in strings, no lone surrogates, and nothing behind the value.  A number with a
fraction or an exponent is read in floating point, any other as an integer.  Members keep their
order; of two members with one name the later overrules the earlier.
-/

namespace ContainerWatch.Json

/-- White space between the tokens of a JSON text. -/
def isBlank (c : Char) : Bool := c == ' ' || c == '\t' || c == '\n' || c == '\r'

/-- The text without the white space at its start. -/
def skipBlanks (text : List Char) : List Char := text.dropWhile isBlank

/-- The value of a hexadecimal digit. -/
def hexValue? (c : Char) : Option Nat :=
  if '0' ≤ c ∧ c ≤ '9' then some (c.toNat - 48)
  else if 'a' ≤ c ∧ c ≤ 'f' then some (c.toNat - 87)
  else if 'A' ≤ c ∧ c ≤ 'F' then some (c.toNat - 55)
  else none

/-- Four hexadecimal digits. -/
def unit? (a b c d : Char) : Option Nat :=
  match hexValue? a, hexValue? b, hexValue? c, hexValue? d with
  | some a, some b, some c, some d => some (((a * 16 + b) * 16 + c) * 16 + d)
  | _, _, _, _ => none

/-- The character that a letter behind a backslash stands for. -/
def simpleEscape? : Char → Option Char
  | '"' => some '"'
  | '\\' => some '\\'
  | '/' => some '/'
  | 'b' => some '\x08'
  | 'f' => some '\x0c'
  | 'n' => some '\n'
  | 'r' => some '\r'
  | 't' => some '\t'
  | _ => none

/-- The body of a string behind its opening mark, and what follows its closing mark.  The characters
    read so far are held in reverse. -/
def readStringBody (read : List Char) : List Char → Option (List Char × List Char)
  | [] => none
  | '"' :: rest => some (read.reverse, rest)
  | '\\' :: 'u' :: a :: b :: c :: d :: rest =>
      match unit? a b c d with
      | none => none
      | some unit =>
          if 0xD800 ≤ unit ∧ unit < 0xDC00 then
            match rest with
            | '\\' :: 'u' :: a' :: b' :: c' :: d' :: rest' =>
                match unit? a' b' c' d' with
                | none => none
                | some low =>
                    if 0xDC00 ≤ low ∧ low < 0xE000 then
                      let code := 0x10000 + (unit - 0xD800) * 0x400 + (low - 0xDC00)
                      readStringBody (Char.ofNat code :: read) rest'
                    else
                      none
            | _ => none
          else if 0xDC00 ≤ unit ∧ unit < 0xE000 then
            none
          else
            readStringBody (Char.ofNat unit :: read) rest
  | '\\' :: c :: rest =>
      match simpleEscape? c with
      | some plain => readStringBody (plain :: read) rest
      | none => none
  | c :: rest =>
      if c = '\\' ∨ c.toNat < 0x20 then none else readStringBody (c :: read) rest

/-- The run of ASCII digits at the start of a text, and what follows it. -/
def spanDigits (text : List Char) : List Char × List Char := text.span Char.isDigit

/-- The number that ASCII digits write. -/
def naturalOf (digits : List Char) : Nat :=
  digits.foldl (fun total c => 10 * total + (c.toNat - 48)) 0

/-- The fraction at the start of a text: its digits, none if there is no point. -/
def readFraction? : List Char → Option (List Char × List Char)
  | '.' :: rest =>
      match spanDigits rest with
      | ([], _) => none
      | (digits, rest) => some (digits, rest)
  | text => some ([], text)

/-- The digits of an exponent, with a sign. -/
def readExponentDigits? (negative : Bool) (text : List Char) : Option (Int × List Char) :=
  match spanDigits text with
  | ([], _) => none
  | (digits, rest) =>
      let size : Int := naturalOf digits
      some (if negative then -size else size, rest)

/-- The exponent at the start of a text, if there is one. -/
def readExponent? : List Char → Option (Option Int × List Char)
  | c :: rest =>
      if c = 'e' ∨ c = 'E' then
        let signed := match rest with
          | '-' :: digits => readExponentDigits? true digits
          | '+' :: digits => readExponentDigits? false digits
          | digits => readExponentDigits? false digits
        signed.map fun (exponent, rest) => (some exponent, rest)
      else
        some (none, c :: rest)
  | [] => some (none, [])

/-- The number at the start of a text behind its sign. -/
def readUnsigned? (negative : Bool) (text : List Char) : Option (Value × List Char) :=
  let (whole, rest) := spanDigits text
  if whole.isEmpty ∨ (whole.head? = some '0' ∧ 1 < whole.length) then
    none
  else
    match readFraction? rest with
    | none => none
    | some (fraction, rest') =>
        match readExponent? rest' with
        | none => none
        | some (none, rest'') =>
            if fraction.isEmpty then
              let size : Int := naturalOf whole
              some (.int (if negative then -size else size), rest'')
            else
              let digits := naturalOf (whole ++ fraction)
              some (.float (.ofDecimal negative digits (-(fraction.length : Int))), rest'')
        | some (some exponent, rest'') =>
            let digits := naturalOf (whole ++ fraction)
            some (.float (.ofDecimal negative digits (exponent - fraction.length)), rest'')

/-- The number at the start of a text. -/
def readNumber? : List Char → Option (Value × List Char)
  | '-' :: rest => readUnsigned? true rest
  | text => readUnsigned? false text

/-- What follows a word at the start of a text. -/
def afterWord? : List Char → List Char → Option (List Char)
  | [], text => some text
  | w :: word, c :: text => if w = c then afterWord? word text else none
  | _ :: _, [] => none

mutual

/-- The value at the start of a text, and what follows it.  The fuel bounds the number of values and
    members that are read one inside or after the other. -/
def readValue? : Nat → List Char → Option (Value × List Char)
  | 0, _ => none
  | fuel + 1, text =>
      match skipBlanks text with
      | '\x7b' :: rest =>
          match skipBlanks rest with
          | '\x7d' :: rest => some (.dict [], rest)
          | rest =>
              (readMembers? fuel rest).map fun (members, rest) =>
                (.dict (Entries.ofPairs members), rest)
      | '[' :: rest =>
          match skipBlanks rest with
          | ']' :: rest => some (.list [], rest)
          | rest => (readItems? fuel rest).map fun (items, rest) => (.list items, rest)
      | '"' :: rest =>
          (readStringBody [] rest).map fun (chars, rest) => (.text (String.ofList chars), rest)
      | 't' :: rest => (afterWord? "rue".toList rest).map fun rest => (.bool true, rest)
      | 'f' :: rest => (afterWord? "alse".toList rest).map fun rest => (.bool false, rest)
      | 'n' :: rest => (afterWord? "ull".toList rest).map fun rest => (.null, rest)
      | text => readNumber? text

/-- The items of an array up to its closing bracket. -/
def readItems? : Nat → List Char → Option (List Value × List Char)
  | 0, _ => none
  | fuel + 1, text =>
      match readValue? fuel text with
      | none => none
      | some (item, rest) =>
          match skipBlanks rest with
          | ']' :: rest => some ([item], rest)
          | ',' :: rest =>
              (readItems? fuel rest).map fun (items, rest) => (item :: items, rest)
          | _ => none

/-- The members of an object up to its closing brace. -/
def readMembers? : Nat → List Char → Option (List (Value × Value) × List Char)
  | 0, _ => none
  | fuel + 1, text =>
      match skipBlanks text with
      | '"' :: rest =>
          match readStringBody [] rest with
          | none => none
          | some (name, rest) =>
              match skipBlanks rest with
              | ':' :: rest =>
                  match readValue? fuel rest with
                  | none => none
                  | some (value, rest) =>
                      let member := (Value.text (String.ofList name), value)
                      match skipBlanks rest with
                      | '\x7d' :: rest => some ([member], rest)
                      | ',' :: rest =>
                          (readMembers? fuel rest).map fun (members, rest) =>
                            (member :: members, rest)
                      | _ => none
              | _ => none
      | _ => none

end

/-- The value that a JSON text writes. -/
def read? (text : String) : Option Value :=
  let chars := text.toList
  match readValue? (chars.length + 1) chars with
  | some (value, rest) => if (skipBlanks rest).isEmpty then some value else none
  | none => none

end ContainerWatch.Json
