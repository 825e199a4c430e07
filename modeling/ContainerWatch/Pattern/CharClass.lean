import ContainerWatch.Pattern.Syntax
import ContainerWatch.Unicode.Case
import ContainerWatch.Unicode.Digit
import ContainerWatch.Unicode.Letter
import ContainerWatch.Unicode.Space

/-!
# Characters against classes

Whether a character of the text is the one that a pattern asks for.  Under the option to ignore case
a character is first taken to lower case; it then stands for every character with the same lower
case, and for those whose lower cases share an upper case.  With the ASCII repertoire only the
letters of ASCII have a case.
-/

namespace ContainerWatch.Pattern

/-- Whether a character belongs to a named repertoire. -/
def CharKind.holds (ascii : Bool) (kind : CharKind) (c : Char) : Bool :=
  match kind with
  | digit => if ascii then c.isDigit else Unicode.isDecimal c
  | space =>
      if ascii then c == ' ' || (9 ≤ c.toNat && c.toNat ≤ 13) else Unicode.isSpace c
  | word => if ascii then Unicode.isAsciiWord c else Unicode.isWord c

/-- The lower case of a code point in a repertoire. -/
def lowered (ascii : Bool) (code : Nat) : Nat :=
  if ascii then Unicode.asciiLowerCode code else Unicode.lowerCode code

/-- The code points that a lower-case code point stands for besides itself. -/
def siblings (ascii : Bool) (code : Nat) : List Nat :=
  if ascii then [] else Unicode.siblingsOf code

/-- Whether a code point is a letter of ASCII. -/
def isAsciiLetter (code : Nat) : Bool :=
  (65 ≤ code && code ≤ 90) || (97 ≤ code && code ≤ 122)

/-- Whether a code point has a case in a repertoire. -/
def isCased (ascii : Bool) (code : Nat) : Bool :=
  if ascii then isAsciiLetter code else Unicode.isCasedCode code

/-- Whether some code point of a closed interval has a case in a repertoire. -/
def hasCasedWithin (ascii : Bool) (first last : Nat) : Bool :=
  if ascii then
    (first ≤ 90 && 65 ≤ last && first ≤ last) || (first ≤ 122 && 97 ≤ last && first ≤ last)
  else
    Unicode.hasCasedWithin first last

/-- Whether a character is the one with a given code point. -/
def charMatches (options : Options) (code : Nat) (c : Char) : Bool :=
  if options.ignoreCase && isCased options.ascii code then
    let low := lowered options.ascii code
    (low :: siblings options.ascii low).contains (lowered options.ascii c.toNat)
  else
    c.toNat == code

/-- Whether a member of a class holds a character as it is. -/
def ClassItem.holds (ascii : Bool) (item : ClassItem) (c : Char) : Bool :=
  match item with
  | char code => c.toNat == code
  | range first last => first ≤ c.toNat && c.toNat ≤ last
  | kind repertoire negated => repertoire.holds ascii c != negated

/-- The code points of sixteen bits, beyond which a class keeps its members as they are written. -/
def planeLimit : Nat := 0x10000

/-- Whether a member of a class makes the class ignore case. -/
def ClassItem.hasCase (ascii : Bool) : ClassItem → Bool
  | char code => planeLimit ≤ code || isCased ascii code
  | range first last => planeLimit ≤ last || hasCasedWithin ascii first last
  | kind .. => false

/-- The code points that have a given lower-case code point as lower case, itself among them. -/
def sources (ascii : Bool) (code : Nat) : List Nat :=
  let own := if lowered ascii code = code then [code] else []
  if ascii then
    own ++ (if 97 ≤ code ∧ code ≤ 122 then [code - 32] else [])
  else
    own ++ Unicode.lowerPreimages code

/-- Whether some code point of a closed interval has the given lower-case code point as lower case,
    or a sibling of it. -/
def rangeFolds (ascii : Bool) (first last low : Nat) : Bool :=
  (low :: siblings ascii low).any fun code =>
    (sources ascii code).any fun source => first ≤ source && source ≤ last

/-- Whether a member of a class holds a character, given by its lower case, when case is ignored. -/
def ClassItem.folds (ascii : Bool) (item : ClassItem) (low : Nat) : Bool :=
  match item with
  | char code =>
      if planeLimit ≤ code then
        low == code
      else
        let own := lowered ascii code
        (own :: siblings ascii own).contains low
  | range first last =>
      if planeLimit ≤ last then
        let upper := Unicode.upperCode low
        rangeFolds ascii first (planeLimit - 1) low || (first ≤ low && low ≤ last)
          || (first ≤ upper && upper ≤ last)
      else
        rangeFolds ascii first last low
  | kind repertoire negated => repertoire.holds ascii (Char.ofNat low) != negated

/-- Whether a class holds a character. -/
def setMatches (options : Options) (negated : Bool) (items : List ClassItem) (c : Char) : Bool :=
  let ascii := options.ascii
  let held :=
    if options.ignoreCase && items.any (·.hasCase ascii) then
      items.any (·.folds ascii (lowered ascii c.toNat))
    else
      items.any (·.holds ascii c)
  held != negated

end ContainerWatch.Pattern
