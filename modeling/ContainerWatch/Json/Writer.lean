import ContainerWatch.Binary64.Decimal
import ContainerWatch.Value.Basic

/-!
# JSON output

The JSON text of a value in printable ASCII characters, with a space behind each comma and colon.
Tuples are written as arrays, and keys that are numbers, truth values or null as their texts.  Bytes,
sets, values of foreign kinds, lists that contain themselves and dictionaries with other keys have no such
text.  The numbers that JSON lacks are written as `NaN`, `Infinity` and `-Infinity`.
-/

namespace ContainerWatch.Json

def unitEscape (unit : Nat) : List Char := '\\' :: 'u' :: Text.fixedDigits 16 4 unit

/-- A character inside a JSON string: printable ASCII stands for itself except for the quotation
    mark and the backslash; a code point beyond 16 bits is written as two surrogates. -/
def escapedChar (c : Char) : List Char :=
  if c = '"' then ['\\', '"']
  else if c = '\\' then ['\\', '\\']
  else if c = '\n' then ['\\', 'n']
  else if c = '\r' then ['\\', 'r']
  else if c = '\t' then ['\\', 't']
  else if c = '\x0c' then ['\\', 'f']
  else if c = '\x08' then ['\\', 'b']
  else if 0x20 ≤ c.toNat ∧ c.toNat < 0x7F then [c]
  else if c.toNat < 0x10000 then unitEscape c.toNat
  else
    let offset := c.toNat - 0x10000
    unitEscape (0xD800 + offset / 0x400) ++ unitEscape (0xDC00 + offset % 0x400)

def stringChars (text : List Char) : List Char := '"' :: text.flatMap escapedChar ++ ['"']

def writeString (s : String) : String := String.ofList (stringChars s.toList)

/-- The text of a number. -/
def floatText (x : Binary64) : String :=
  match x with
  | .nan => "NaN"
  | .infinite negative => if negative then "-Infinity" else "Infinity"
  | x => x.shortestText

def intText (n : Int) : String := String.ofList (Text.signedDecimal n)

def boolText (b : Bool) : String := if b then "true" else "false"

/-- Why a value has no JSON text. -/
inductive WriteError where
  /-- A value of this kind has none. -/
  | noText (kindName : String)
  /-- A value of this kind is no key. -/
  | noKey (kindName : String)
  /-- A list contains itself. -/
  | circular
  deriving DecidableEq, Repr

namespace WriteError

/-- An error in words. -/
def message : WriteError → String
  | noText kindName => "Object of type " ++ kindName ++ " is not JSON serializable"
  | noKey kindName => "keys must be str, int, float, bool or None, not " ++ kindName
  | circular => "Circular reference detected"

end WriteError

/-- The text under which a key is written. -/
def keyText? : Value → Option String
  | .text s => some s
  | .float x => some (floatText x)
  | .bool b => some (boolText b)
  | .null => some "null"
  | .int n => some (intText n)
  | _ => none

mutual

/-- The JSON text of a value. -/
def write : Value → Except WriteError String
  | .null => .ok "null"
  | .bool b => .ok (boolText b)
  | .int n => .ok (intText n)
  | .float x => .ok (floatText x)
  | .text s => .ok (writeString s)
  | .list items | .tuple items =>
      (writeItems items).map fun texts => "[" ++ String.intercalate ", " texts ++ "]"
  | .loop items =>
      match writeItems items with
      | .ok _ => .error .circular
      | .error error => .error error
  | .set _ => .error (.noText "set")
  | .bytes _ => .error (.noText "bytes")
  | .dict entries =>
      (writeEntries entries).map fun texts => "\x7b" ++ String.intercalate ", " texts ++ "\x7d"
  | .foreign f => .error (.noText f.kindName)

/-- The JSON texts of several values. -/
def writeItems : List Value → Except WriteError (List String)
  | [] => .ok []
  | item :: items =>
      match write item with
      | .error error => .error error
      | .ok text => (writeItems items).map (text :: ·)

/-- The JSON members of a dictionary. -/
def writeEntries : List (Value × Value) → Except WriteError (List String)
  | [] => .ok []
  | (key, value) :: entries =>
      match keyText? key with
      | none => .error (.noKey key.kindName)
      | some name =>
          match write value with
          | .error error => .error error
          | .ok text => (writeEntries entries).map ((writeString name ++ ": " ++ text) :: ·)

end

def write? (value : Value) : Option String := (write value).toOption

/-- The JSON text of an object with members whose values are written already. -/
def writeObject (members : List (String × String)) : String :=
  let texts := members.map fun (name, text) => writeString name ++ ": " ++ text
  "\x7b" ++ String.intercalate ", " texts ++ "\x7d"

end ContainerWatch.Json
