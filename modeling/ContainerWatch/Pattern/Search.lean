import ContainerWatch.Pattern.Matcher

/-!
# Searching

A pattern is searched for by matching it at one place of the text after the other.  Where its shortest
match is known not to be empty, places too near to the end are left out; and where the class of its
first character is known, so are the places without such a character.  That class is read with the
options of the whole pattern, also where the pattern has other options there.
-/

namespace ContainerWatch.Pattern

/-- The class of characters at which a search begins a match, if there is one. -/
def startSet? (options : Options) (nodes : List Node) : Option (Bool × List ClassItem) :=
  if opensLiterally options false nodes then none else firstSet? options nodes

/-- What is known of the first character of a match. -/
def startLead (options : Options) (least : Nat) (nodes : List Node) : Lead :=
  match startSet? options nodes with
  | some (negated, items) => if least = 0 then .unknown else .set options.ascii negated items
  | none => .unknown

/-- At how many places a search begins a match, in a text of a length that is great enough. -/
def startCount (options : Options) (least length : Nat) (nodes : List Node) : Nat :=
  if least = 0 || opensLiterally options false nodes || (startSet? options nodes).isSome then
    length + 1
  else
    length + 2 - least

/-- The end of the first match that begins at one of a number of places, from a given one on. -/
def searchFrom (matcher : Matcher) (lead : Lead) : Nat → Place → Option Matching
  | 0, _ => none
  | count + 1, place =>
      let attempt :=
        if lead.rejects place then .failed (.start place)
        else matcher (.start place) Follow.finish
      match attempt with
      | .matched done => some done
      | .failed _ => (place.next?).bind fun (_, next) => searchFrom matcher lead count next

/-- The end of the first match of a pattern in a text.  `least` is the length of its shortest match. -/
def search (options : Options) (least : Nat) (nodes : List Node) (text : List Char) :
    Option Matching :=
  if text.length < least then
    none
  else
    searchFrom (matchSequence options false .unknown nodes) (startLead options least nodes)
      (startCount options least text.length nodes) (.start text)

end ContainerWatch.Pattern
