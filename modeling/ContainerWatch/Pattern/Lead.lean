import ContainerWatch.Pattern.CharClass
import ContainerWatch.Pattern.Matching

/-!
# How patterns begin

What is known of the first character of what a pattern matches, and which patterns match one
character each time.  By the first character an attempt can be left out before it is begun, and a
search can skip places.
-/

namespace ContainerWatch.Pattern

/-- What is known of the first character of what a pattern matches. -/
inductive Lead where
  /-- It is this one. -/
  | char (code : Nat)
  /-- It belongs to this class. -/
  | set (ascii negated : Bool) (items : List ClassItem)
  | unknown
  deriving DecidableEq, Repr

/-- Whether a character has a case that is ignored. -/
def Options.foldsChar (options : Options) (code : Nat) : Bool :=
  options.ignoreCase && isCased options.ascii code

/-- Whether a class holds a character as it is. -/
def holdsAsIs (ascii negated : Bool) (items : List ClassItem) (c : Char) : Bool :=
  items.any (·.holds ascii c) != negated

namespace Lead

/-- Whether what is known excludes a match at a place. -/
def rejects (lead : Lead) (place : Place) : Bool :=
  match lead, place.next? with
  | unknown, _ => false
  | _, none => true
  | char code, some (c, _) => c.toNat != code
  | set ascii negated items, some (c, _) => !holdsAsIs ascii negated items c

/-- What is known if it is a single character. -/
def charOnly : Lead → Lead
  | char code => char code
  | _ => unknown

end Lead

mutual

/-- What is known of the first character of a part, where `next` is known of what follows it. -/
def Node.lead (options : Options) (next : Lead) : Node → Lead
  | .char code => if options.foldsChar code then .unknown else .char code
  | .set negated items =>
      if options.ignoreCase && items.any (·.hasCase options.ascii) then .unknown
      else .set options.ascii negated items
  | .group none on off body => sequenceLead (options.within on off) next body
  | _ => .unknown

/-- What is known of the first character of a sequence of parts. -/
def sequenceLead (options : Options) (next : Lead) : List Node → Lead
  | [] => next
  | node :: nodes => node.lead options (sequenceLead options next nodes)

end

/-- A pattern that matches one character each time. -/
structure Single where
  accepts : Char → Bool
  /-- Whether counting the characters moves the head behind them. -/
  movesHead : Bool

/-- Whether a character stands for more than the two cases of a letter. -/
def Options.hasSiblings (options : Options) (code : Nat) : Bool :=
  options.foldsChar code && !(siblings options.ascii (lowered options.ascii code)).isEmpty

mutual

/-- A part that matches one character each time. -/
def Node.single? (options : Options) : Node → Option Single
  | .char code => some ⟨charMatches options code, options.hasSiblings code⟩
  | .notChar code => some ⟨fun c => !charMatches options code c, options.hasSiblings code⟩
  | .anyChar => some ⟨fun c => options.dotAll || c != '\n', false⟩
  | .set negated items =>
      some ⟨setMatches options negated items,
        options.ignoreCase && items.any (·.hasCase options.ascii)⟩
  | .group none on off body => singleOf? (options.within on off) body
  | _ => none

/-- A sequence of parts that matches one character each time. -/
def singleOf? (options : Options) : List Node → Option Single
  | [node] => node.single? options
  | _ => none

end

mutual

/-- Whether a part begins with a character that stands for itself, where `next` says so of what
    follows it. -/
def Node.opensLiterally (options : Options) (next : Bool) : Node → Bool
  | .char code => !options.foldsChar code
  | .group _ on off body => opensLiterally (options.within on off) next body
  | _ => false

/-- Whether a sequence of parts begins with a character that stands for itself. -/
def opensLiterally (options : Options) (next : Bool) : List Node → Bool
  | [] => next
  | node :: nodes => node.opensLiterally options (opensLiterally options next nodes)

end

/-- Whether a member of a class has a case. -/
def ClassItem.isCased (ascii : Bool) : ClassItem → Bool
  | char code => Pattern.isCased ascii code
  | range first last => planeLimit ≤ last || hasCasedWithin ascii first last
  | kind .. => false

/-- The character with which an alternative begins, if it stands for itself. -/
def alternativeChar? (options : Options) : List Node → Option ClassItem
  | .char code :: _ => if options.foldsChar code then none else some (.char code)
  | _ => none

mutual

/-- The class of the first character of a part, if it can be told without regard to case. -/
def Node.firstSet? (options : Options) : Node → Option (Bool × List ClassItem)
  | .group _ on off body => firstSet? (options.within on off) body
  | .branch alternatives =>
      (alternatives.mapM (alternativeChar? options)).map fun items => (false, items)
  | .set negated items =>
      if options.ignoreCase && items.any (·.isCased options.ascii) then none
      else some (negated, items)
  | _ => none

/-- The class of the first character of a sequence of parts, if its first part tells it. -/
def firstSet? (options : Options) : List Node → Option (Bool × List ClassItem)
  | [] => none
  | node :: _ => node.firstSet? options

end

end ContainerWatch.Pattern
