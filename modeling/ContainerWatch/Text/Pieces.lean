/-!
# Pieces of a text

Trimming by a class of characters and cutting at a separator.
-/

namespace ContainerWatch.Text

/-- The text without the characters of a class at its two ends. -/
def trimBy (blank : Char → Bool) (text : List Char) : List Char :=
  ((text.dropWhile blank).reverse.dropWhile blank).reverse

/-- The pieces of a text between the occurrences of a separator; there is always one. -/
def piecesAt (separator : Char) : List Char → List (List Char)
  | [] => [[]]
  | c :: rest =>
      if c = separator then
        [] :: piecesAt separator rest
      else
        match piecesAt separator rest with
        | [] => [[c]]
        | piece :: pieces => (c :: piece) :: pieces

end ContainerWatch.Text
