/-!
# White space

Two classes of white space are in use.  The wider one holds every character that separates words
or lines, the information separators U+001C to U+001F among them; the narrower one is the
Unicode property White_Space, which leaves these four out.
-/

namespace ContainerWatch.Unicode

/-- The Unicode property White_Space. -/
def isWhiteSpace (c : Char) : Bool :=
  let code := c.toNat
  (9 ≤ code && code ≤ 13) || code == 0x20 || code == 0x85 || code == 0xA0 || code == 0x1680
    || (0x2000 ≤ code && code ≤ 0x200A) || code == 0x2028 || code == 0x2029 || code == 0x202F
    || code == 0x205F || code == 0x3000

/-- White space in the wider sense: White_Space and the four information separators. -/
def isSpace (c : Char) : Bool :=
  isWhiteSpace c || (0x1C ≤ c.toNat && c.toNat ≤ 0x1F)

end ContainerWatch.Unicode
