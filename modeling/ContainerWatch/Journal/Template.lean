import ContainerWatch.Binary64.Decimal
import ContainerWatch.Fault

/-!
# Message templates

A message may be a template with conversions, each of which begins with a percent sign and takes an
argument: `%s`, `%r` and `%a` print any value, `%d`, `%i`, `%u`, `%o`, `%x` and `%X` an integer, `%e`,
`%f` and `%g` a number in floating point, `%c` a character, and `%%` is a percent sign.  Between the
sign and the letter there may be the key of the argument in parentheses, flags, a width and a
precision.
-/

namespace ContainerWatch.Journal.Template

/-- Why a template cannot be filled with its arguments. -/
inductive Error where
  | needsMapping
  | incompleteKey
  | missingKey (key : String)
  | indexByText (place : String)
  | notEnough
  | notAll
  | widthNoInteger
  | widthTooBig
  | precisionTooBig
  | precisionTooLarge
  | widthBeyondWord
  | precisionBeyondWord
  | incomplete
  | unsupported (letter : Char) (index : Nat)
  | integerRequired (letter : Char) (kindName : String)
  | realRequired (letter : Char) (kindName : String)
  | floatRequired (kindName : String)
  | charRequired
  | charRange
  | notANumber
  | infiniteNumber
  | beyondFloat
  | outOfMemory
  deriving DecidableEq, Repr

namespace Error

/-- An error in words. -/
def message : Error → String
  | needsMapping => "format requires a mapping"
  | incompleteKey => "incomplete format key"
  | missingKey key => key
  | indexByText place => place ++ " indices must be integers or slices, not str"
  | notEnough => "not enough arguments for format string"
  | notAll => "not all arguments converted during string formatting"
  | widthNoInteger => "* wants int"
  | widthTooBig => "width too big"
  | precisionTooBig => "precision too big"
  | precisionTooLarge => "precision too large"
  | widthBeyondWord => "Python int too large to convert to C ssize_t"
  | precisionBeyondWord => "Python int too large to convert to C int"
  | incomplete => "incomplete format"
  | unsupported letter index =>
      let shown := if 31 ≤ letter.toNat ∧ letter.toNat ≤ 126 then letter else '?'
      "unsupported format character '" ++ shown.toString ++ "' (0x"
        ++ String.ofList (Text.digits 16 letter.toNat) ++ ") at index "
        ++ String.ofList (Text.decimal index)
  | integerRequired letter kindName =>
      "%" ++ letter.toString ++ " format: an integer is required, not " ++ kindName
  | realRequired letter kindName =>
      "%" ++ letter.toString ++ " format: a real number is required, not " ++ kindName
  | floatRequired kindName => "must be real number, not " ++ kindName
  | charRequired => "%c requires int or char"
  | charRange => "%c arg not in range(0x110000)"
  | notANumber => "cannot convert float NaN to integer"
  | infiniteNumber => "cannot convert float infinity to integer"
  | beyondFloat => "int too large to convert to float"
  | outOfMemory => ""

/-- The kind of fault that an error is. -/
def kind : Error → FaultKind
  | missingKey _ => .key
  | incompleteKey | widthTooBig | precisionTooBig | incomplete | unsupported .. | notANumber =>
      .value
  | charRange | infiniteNumber | beyondFloat | widthBeyondWord | precisionBeyondWord
  | precisionTooLarge => .overflow
  | outOfMemory => .memory
  | _ => .type

def fault (error : Error) : Fault := .ofMessage error.kind error.message

end Error

/-- The flags of a conversion. -/
structure Flags where
  left : Bool := false
  plus : Bool := false
  blank : Bool := false
  alternate : Bool := false
  zero : Bool := false
  deriving DecidableEq, Repr

/-- The arguments that are left: the items of a tuple, or one value that is there until it is
    taken. -/
inductive Supply where
  | items (values : List Value)
  | single (value : Option Value)

namespace Supply

/-- The next argument, and what is left then. -/
def next? : Supply → Except Error (Value × Supply)
  | items (value :: values) => .ok (value, items values)
  | single (some value) => .ok (value, single none)
  | _ => .error .notEnough

/-- Whether no argument is left. -/
def isEmpty : Supply → Bool
  | items values => values.isEmpty
  | single value => value.isNone

end Supply

/-- What is left of a template and its arguments, with the place in the template. -/
structure Rest where
  chars : List Char
  index : Nat
  supply : Supply

/-- The key at the start of a text behind its opening parenthesis, and what follows its closing one.
    Parentheses inside a key are balanced. -/
def splitKey? : Nat → List Char → Option (List Char × List Char)
  | _, [] => none
  | depth, c :: rest =>
      if c = ')' then
        match depth with
        | 0 => some ([], rest)
        | depth + 1 => (splitKey? depth rest).map fun (key, rest) => (c :: key, rest)
      else
        let inner := if c = '(' then depth + 1 else depth
        (splitKey? inner rest).map fun (key, rest) => (c :: key, rest)

/-- The argument under a key. -/
def argumentUnder (args : Value) (key : String) : Except Error Value :=
  match args with
  | .dict entries =>
      match Entries.get? entries key with
      | some value => .ok value
      | none => .error (.missingKey key)
  | .list _ | .loop _ => .error (.indexByText "list")
  | .bytes _ => .error (.indexByText "byte")
  | _ => .error .needsMapping

/-- Whether arguments are looked up by key, even if there is none that could be found. -/
def isMapping : Value → Bool
  | .dict _ | .list _ | .loop _ | .bytes _ => true
  | _ => false

/-- The key of a conversion, if it has one; the argument under it is then the only one. -/
def readKey (args : Value) (rest : Rest) : Except Error Rest :=
  match rest.chars with
  | '(' :: chars =>
      if !isMapping args then
        .error .needsMapping
      else
        match splitKey? 0 chars with
        | none => .error .incompleteKey
        | some (key, chars) => do
            let value ← argumentUnder args (String.ofList key)
            return ⟨chars, rest.index + key.length + 2, .single (some value)⟩
  | _ => .ok rest

/-- The flags at the start of a text, and what follows them. -/
def readFlags (flags : Flags) : List Char → Flags × List Char
  | '-' :: rest => readFlags { flags with left := true } rest
  | '+' :: rest => readFlags { flags with plus := true } rest
  | ' ' :: rest => readFlags { flags with blank := true } rest
  | '#' :: rest => readFlags { flags with alternate := true } rest
  | '0' :: rest => readFlags { flags with zero := true } rest
  | rest => (flags, rest)

/-- An argument in place of a width or precision. -/
def sizeArgument (limit : Nat) (beyondWord : Error) (value : Value) : Except Error Int :=
  match value with
  | .int n => if limit < n ∨ n < -(limit : Int) - 1 then .error beyondWord else .ok n
  | .bool b => .ok (if b then 1 else 0)
  | _ => .error .widthNoInteger

/-- A width or precision: the next argument in place of a star, or digits. -/
def readSize (limit : Nat) (tooBig beyondWord : Error) (rest : Rest) :
    Except Error (Option Int × Rest) :=
  match rest.chars with
  | '*' :: chars => do
      let (value, supply) ← rest.supply.next?
      let size ← sizeArgument limit beyondWord value
      return (some size, ⟨chars, rest.index + 1, supply⟩)
  | chars =>
      let digits := chars.takeWhile Char.isDigit
      if digits.isEmpty then
        .ok (none, rest)
      else
        let size := digits.foldl (fun total c => 10 * total + (c.toNat - 48)) 0
        if limit < size then .error tooBig
        else .ok (some size, ⟨chars.drop digits.length, rest.index + digits.length, rest.supply⟩)

def widthLimit : Nat := Nat.pow 2 63 - 1

def precisionLimit : Nat := Nat.pow 2 31 - 1

def integerPrecisionLimit : Nat := Nat.pow 2 31 - 4

/-- The precision of a conversion behind a point; a point alone is a precision of zero. -/
def readPrecision (rest : Rest) : Except Error (Option Nat × Rest) :=
  match rest.chars with
  | '.' :: chars => do
      let (size, rest) ← readSize precisionLimit .precisionTooBig .precisionBeyondWord
        { rest with chars, index := rest.index + 1 }
      return (some (size.getD 0).toNat, rest)
  | _ => .ok (none, rest)

/-- A conversion: its flags, width, precision and letter. -/
structure Conversion where
  flags : Flags
  width : Nat
  precision : Option Nat
  letter : Char
  deriving DecidableEq, Repr

/-- What is left without a letter for the size of the argument, which means nothing. -/
def skipSizeLetter (rest : Rest) : Rest :=
  match rest.chars with
  | c :: chars =>
      if c = 'h' ∨ c = 'l' ∨ c = 'L' then { rest with chars, index := rest.index + 1 } else rest
  | [] => rest

def readConversion (args : Value) (rest : Rest) : Except Error (Conversion × Rest) := do
  let rest ← readKey args rest
  let (flags, chars) := readFlags {} rest.chars
  let rest := { rest with chars, index := rest.index + (rest.chars.length - chars.length) }
  let (width, rest) ← readSize widthLimit .widthTooBig .widthBeyondWord rest
  let width := width.getD 0
  let flags := if width < 0 then { flags with left := true } else flags
  let (precision, rest) ← readPrecision rest
  let rest := skipSizeLetter rest
  match rest.chars with
  | [] => throw .incomplete
  | letter :: chars =>
      return (⟨flags, width.natAbs, precision, letter⟩,
        { rest with chars, index := rest.index + 1 })

/-- An integer argument of an integer conversion. -/
def integerArgument (letter : Char) (value : Value) : Except Error Int :=
  let exact := letter = 'o' ∨ letter = 'x' ∨ letter = 'X'
  match value with
  | .int n => .ok n
  | .bool b => .ok (if b then 1 else 0)
  | .float x =>
      if exact then
        .error (.integerRequired letter value.kindName)
      else
        match x with
        | .nan => .error .notANumber
        | .infinite _ => .error .infiniteNumber
        | x => .ok (x.truncate?.getD 0)
  | value =>
      .error (if exact then .integerRequired letter value.kindName
        else .realRequired letter value.kindName)

/-- An argument of a floating-point conversion. -/
def floatArgument (value : Value) : Except Error Binary64 :=
  let ofInt (n : Int) : Except Error Binary64 :=
    let x := Binary64.ofInt n
    if x.isFinite then .ok x else .error .beyondFloat
  match value with
  | .float x => .ok x
  | .int n => ofInt n
  | .bool b => ofInt (if b then 1 else 0)
  | value => .error (.floatRequired value.kindName)

/-- A converted argument: its sign, the mark of its base, and the rest. -/
structure Converted where
  sign : List Char
  mark : List Char
  body : List Char
  /-- Whether it is a number, which a zero flag fills with zeros. -/
  numeric : Bool

/-- The sign of a number under the flags. -/
def signOf (flags : Flags) (negative : Bool) : List Char :=
  if negative then ['-'] else if flags.plus then ['+'] else if flags.blank then [' '] else []

/-- An integer, in at least as many digits as the precision says. -/
def writeInteger (conversion : Conversion) (n : Int) : Converted :=
  let letter := conversion.letter
  let (base, mark) :=
    if letter = 'o' then (8, ['0', 'o'])
    else if letter = 'x' then (16, ['0', 'x'])
    else if letter = 'X' then (16, ['0', 'X'])
    else (10, [])
  let digits := Text.padLeft '0' (conversion.precision.getD 0) (Text.digits base n.natAbs)
  { sign := signOf conversion.flags (n < 0)
    mark := if conversion.flags.alternate then mark else []
    body := if letter = 'X' then digits.map Char.toUpper else digits
    numeric := true }

/-- An integer, unless the precision is beyond all limits. -/
def convertInteger (conversion : Conversion) (n : Int) : Except Error Converted :=
  if integerPrecisionLimit < conversion.precision.getD 0 then .error .precisionTooLarge
  else .ok (writeInteger conversion n)

/-- The size of a number in floating point. -/
def floatBody (conversion : Conversion) (x : Binary64) : List Char :=
  let precision := conversion.precision.getD 6
  let alternate := conversion.flags.alternate
  match x with
  | .nan => ['n', 'a', 'n']
  | .infinite _ => ['i', 'n', 'f']
  | .finite _ mantissa exponent =>
      let (num, den) := Binary64.magnitude mantissa exponent
      match conversion.letter.toLower with
      | 'e' => Binary64.fixedScientific 'e' precision alternate num den
      | 'f' => Binary64.fixedPlaces precision alternate num den
      | _ => Binary64.general 'e' precision alternate num den

/-- A number in floating point; a capital letter prints capitals. -/
def convertFloat (conversion : Conversion) (x : Binary64) : Converted :=
  let body := floatBody conversion x
  { sign := signOf conversion.flags x.isNegative
    mark := []
    body := if conversion.letter.isUpper then body.map Char.toUpper else body
    numeric := true }

/-- A text, of which no more is taken than the precision says. -/
def convertText (conversion : Conversion) (text : String) : Converted :=
  let chars := text.toList
  let body := match conversion.precision with
    | some precision => chars.take precision
    | none => chars
  ⟨[], [], body, false⟩

/-- A character, given as a text of one or as a code point. -/
def convertChar (value : Value) : Except Error Converted :=
  let ofCode (n : Int) : Except Error Converted :=
    if 0 ≤ n ∧ n < 0x110000 then .ok ⟨[], [], [Char.ofNat n.toNat], false⟩
    else .error .charRange
  match value with
  | .text s =>
      match s.toList with
      | [c] => .ok ⟨[], [], [c], false⟩
      | _ => .error .charRequired
  | .int n => ofCode n
  | .bool b => ofCode (if b then 1 else 0)
  | _ => .error .charRequired

/-- An argument as a conversion prints it; `index` is the place of the conversion's letter. -/
def convert (conversion : Conversion) (index : Nat) (value : Value) : Except Error Converted :=
  let letter := conversion.letter
  if letter = 's' then .ok (convertText conversion value.shown)
  else if letter = 'r' then .ok (convertText conversion value.quoted)
  else if letter = 'a' then .ok (convertText conversion (Text.asciiOnly value.quoted))
  else if letter = 'c' then convertChar value
  else if letter ∈ ['d', 'i', 'u', 'o', 'x', 'X'] then
    (integerArgument letter value).bind (convertInteger conversion)
  else if letter ∈ ['e', 'E', 'f', 'F', 'g', 'G'] then
    (floatArgument value).map (convertFloat conversion)
  else .error (.unsupported letter index)

/-- A converted argument in its width: with blanks in front of it or behind it, or with zeros behind
    its sign. -/
def aligned (conversion : Conversion) (converted : Converted) : List Char :=
  let start := converted.sign ++ converted.mark
  let count := conversion.width - (start.length + converted.body.length)
  if conversion.flags.left then
    start ++ converted.body ++ List.replicate count ' '
  else if conversion.flags.zero && converted.numeric then
    start ++ List.replicate count '0' ++ converted.body
  else
    List.replicate count ' ' ++ start ++ converted.body

/-- The width from which on there is no room for a converted argument. -/
def memoryLimit : Nat := Nat.pow 2 40

/-- A converted argument in its width, if there is room for that. -/
def place (conversion : Conversion) (converted : Converted) : Except Error (List Char) :=
  if memoryLimit ≤ conversion.width then .error .outOfMemory else .ok (aligned conversion converted)

/-- What is left of a template, filled with what is left of its arguments. -/
def fillRest (args : Value) : Nat → Rest → Except Error (List Char)
  | 0, _ => .ok []
  | fuel + 1, rest =>
      match rest.chars with
      | [] => if rest.supply.isEmpty || isMapping args then .ok [] else .error .notAll
      | '%' :: '%' :: chars => do
          return '%' :: (← fillRest args fuel { rest with chars, index := rest.index + 2 })
      | '%' :: chars => do
          let (conversion, rest) ← readConversion args { rest with chars, index := rest.index + 1 }
          let (value, supply) ← rest.supply.next?
          let converted ← convert conversion (rest.index - 1) value
          let placed ← place conversion converted
          return placed ++ (← fillRest args fuel { rest with supply })
      | c :: chars => do
          return c :: (← fillRest args fuel { rest with chars, index := rest.index + 1 })

/-- A template filled with its arguments: the items of a tuple, or one value. -/
def fill (template : String) (args : Value) : Except Error String := do
  let supply := match args with
    | .tuple values => Supply.items values
    | value => Supply.single (some value)
  let chars := template.toList
  return String.ofList (← fillRest args (chars.length + 1) ⟨chars, 0, supply⟩)

end ContainerWatch.Journal.Template
