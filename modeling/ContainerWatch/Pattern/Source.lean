import ContainerWatch.Pattern.Error

/-!
# The source of a pattern

A pattern as it is read: one token ahead, where a backslash and the character behind it are one
token.  Places are counted in characters from the start of the pattern to the token ahead.
-/

namespace ContainerWatch.Pattern

/-- A character, or a backslash with the character behind it. -/
inductive Token where
  | plain (c : Char)
  | escape (c : Char)
  deriving DecidableEq, Repr

namespace Token

/-- The characters of a token. -/
def chars : Token → List Char
  | plain c => [c]
  | escape c => ['\\', c]

def text (token : Token) : String := String.ofList token.chars

def length (token : Token) : Nat := token.chars.length

end Token

/-- What is left of a pattern: the token ahead, the characters behind it, and the number of
    characters up to the end of the token ahead. -/
structure Source where
  next : Option Token
  rest : List Char
  index : Nat
  deriving Repr

namespace Source

/-- The place of the token ahead. -/
def position (source : Source) : Nat :=
  source.index - (match source.next with | some token => token.length | none => 0)

/-- The source whose token ahead is the first of the given characters.  A backslash at the very end
    is rejected as soon as it would be the token ahead. -/
def ahead (chars : List Char) (index : Nat) : Except Error Source :=
  match chars with
  | [] => .ok ⟨none, [], index⟩
  | ['\\'] => .error ⟨.danglingBackslash, some index⟩
  | '\\' :: c :: rest => .ok ⟨some (.escape c), rest, index + 2⟩
  | c :: rest => .ok ⟨some (.plain c), rest, index + 1⟩

/-- The source behind the token ahead. -/
def advance (source : Source) : Except Error Source := ahead source.rest source.index

def ofChars (chars : List Char) : Except Error Source := ahead chars 0

end Source

end ContainerWatch.Pattern
