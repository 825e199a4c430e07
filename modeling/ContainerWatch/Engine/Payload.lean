import ContainerWatch.Instant
import ContainerWatch.Text.Numeral
import ContainerWatch.Value.Printed
import ContainerWatch.Fault

/-!
# Loosely typed payloads

The engine describes containers and events in dictionaries whose values may be of any kind.  Here is
how such a value is taken for a dictionary, a sequence or a number, and why it may not be.
-/

namespace ContainerWatch.Engine

/-- Why a value of a payload cannot be taken for what it should be. -/
inductive PayloadError where
  | noLookup (kindName : String)
  | notIterable (kindName : String)
  | noPair (index : Nat)
  | wrongLength (index length : Nat)
  | unhashable (kindName : String)
  | noNumber (kindName : String)
  | malformedNumber (text : String)
  | numberTooLong (digits : Nat)
  | infiniteNumber
  | notANumber
  deriving DecidableEq, Repr

namespace PayloadError

/-- An error in words. -/
def message : PayloadError → String
  | noLookup kindName => "'" ++ kindName ++ "' object has no attribute 'get'"
  | notIterable kindName => "'" ++ kindName ++ "' object is not iterable"
  | noPair index =>
      "cannot convert dictionary update sequence element #" ++ String.ofList (Text.decimal index)
        ++ " to a sequence"
  | wrongLength index length =>
      "dictionary update sequence element #" ++ String.ofList (Text.decimal index)
        ++ " has length " ++ String.ofList (Text.decimal length) ++ "; 2 is required"
  | unhashable kindName => "unhashable type: '" ++ kindName ++ "'"
  | noNumber kindName =>
      "int() argument must be a string, a bytes-like object or a real number, not '"
        ++ kindName ++ "'"
  | malformedNumber text =>
      "invalid literal for int() with base 10: "
        ++ String.ofList ((Text.quotedChars text.toList).take 200)
  | numberTooLong digits => Text.tooLongMessage digits
  | infiniteNumber => "cannot convert float infinity to integer"
  | notANumber => "cannot convert float NaN to integer"

/-- The kind of fault that an error is. -/
def kind : PayloadError → FaultKind
  | noLookup _ => .lacking
  | notIterable _ | noPair _ | unhashable _ | noNumber _ => .type
  | wrongLength .. | malformedNumber _ | numberTooLong _ | notANumber => .value
  | infiniteNumber => .overflow

def fault (error : PayloadError) : Fault := .ofMessage error.kind error.message

end PayloadError

/-- The entries of a value that is looked up by key. -/
def lookupEntries : Value → Except PayloadError Entries
  | .dict entries => .ok entries
  | value => .error (.noLookup value.kindName)

/-- The items of a value, if it has any: the characters of a text, the keys of a dictionary. -/
def itemsOf? : Value → Option (List Value)
  | .list items | .tuple items | .set items => some items
  | .loop items => some (items ++ [.loop items])
  | .text s => some (s.toList.map fun c => .text c.toString)
  | .dict entries => some (entries.map (·.1))
  | _ => none

/-- The items of a value that has to have some. -/
def itemsOf (value : Value) : Except PayloadError (List Value) :=
  match itemsOf? value with
  | some items => .ok items
  | none => .error (.notIterable value.kindName)

/-- The dictionary of a sequence of pairs. -/
def entriesOfPairs (entries : Entries) (index : Nat) : List Value → Except PayloadError Entries
  | [] => .ok entries
  | item :: items =>
      match itemsOf? item with
      | none => .error (.noPair index)
      | some [key, value] =>
          match key.unhashable? with
          | some kindName => .error (.unhashable kindName)
          | none => entriesOfPairs (entries.put key value) (index + 1) items
      | some parts => .error (.wrongLength index parts.length)

/-- A value as a dictionary: it is one, or its items are pairs. -/
def entriesOf (value : Value) : Except PayloadError Entries :=
  match value with
  | .dict entries => .ok entries
  | value =>
      match itemsOf value with
      | .ok items => entriesOfPairs [] 0 items
      | .error error => .error error

/-- A value as an integer: a number without its fraction, or the number that a text writes. -/
def integerOf : Value → Except PayloadError Int
  | .int n => .ok n
  | .bool b => .ok (if b then 1 else 0)
  | .float x =>
      match x with
      | .nan => .error .notANumber
      | .infinite _ => .error .infiniteNumber
      | x => .ok (x.truncate?.getD 0)
  | .text s =>
      match Text.readNumeral s.toList with
      | .ok n => .ok n
      | .error .malformed => .error (.malformedNumber s)
      | .error (.tooLong digits) => .error (.numberTooLong digits)
  | value => .error (.noNumber value.kindName)

/-- The integer under a key, zero if the value counts as nothing. -/
def integerUnder (entries : Entries) (key : String) : Except PayloadError Int :=
  integerOf ((entries.getNull key).orElse (.int 0))

/-- Why a time is no instant, as a fault. -/
def instantFault : Instant.Error → Fault
  | .notANumber => .ofMessage .value "Invalid value NaN (not a number)"
  | .beyondFloat => .ofMessage .overflow "int too large to convert to float"
  | .beyondClock => .ofMessage .overflow "timestamp out of range for platform time_t"
  | .beyondCalendar =>
      ⟨.system .unspecified, [.int 75, .text "Value too large for defined data type"], none⟩
  | .yearOutOfRange year =>
      .ofMessage .value ("year " ++ String.ofList (Text.signedDecimal year) ++ " is out of range")

/-- An instant, or the fault that there is none. -/
def instantOutcome (outcome : Except Instant.Error Instant) : Except Fault Instant :=
  match outcome with
  | .ok instant => .ok instant
  | .error error => .error (instantFault error)

/-- The instant at a number of seconds, which has to be a number. -/
def instantAt (seconds : Value) : Except Fault Instant :=
  match seconds with
  | .float x => instantOutcome (Instant.ofFloat x)
  | .int n => instantOutcome (Instant.ofSeconds n)
  | .bool b => instantOutcome (Instant.ofSeconds (if b then 1 else 0))
  | value =>
      .error (.ofMessage .type
        ("'" ++ value.kindName ++ "' object cannot be interpreted as an integer"))

end ContainerWatch.Engine
