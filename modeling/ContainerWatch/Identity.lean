import ContainerWatch.Journal.Report
import ContainerWatch.Text.Pieces
import ContainerWatch.Unicode.Digit

/-!
# Logical names and groups

The name of a container is that of its service with the number of its replica, if its raw name says
so: a line of it then consists of the service, the number and the identifier of the task with points
between them.  Otherwise a label names the container, or its raw name does.  The group of a container
is named by a label, or it is the part of its image between two slashes.
-/

namespace ContainerWatch.Identity

open Journal

def nameLabel : String := "logger.container.name"

def groupLabel : String := "logger.group.name"

/-- The number at the start of a text that a point ends. -/
def replicaNumber? (text : List Char) : Option (List Char) :=
  let number := text.takeWhile Unicode.isDecimal
  if !number.isEmpty && (text.drop number.length).head? == some '.' then some number else none

/-- Service and replica number in a line: the longest service behind which a number stands between
    two points. -/
def replicaIn? : List Char → Option (List Char × List Char)
  | [] => none
  | c :: rest =>
      match replicaIn? rest with
      | some (service, number) => some (c :: service, number)
      | none => if c = '.' then (replicaNumber? rest).map fun number => ([], number) else none

/-- Service and replica number in a name: those in its first line that has them. -/
def replica? (name : List Char) : Option (List Char × List Char) :=
  (Text.piecesAt '\n' name).findSome? replicaIn?

/-- A raw name without the slash in front of it. -/
def withoutSlash : List Char → List Char
  | '/' :: rest => rest
  | name => name

/-- The logical name of a container with a textual raw name. -/
def nameOfText (labels : Entries) (raw : String) : Value :=
  let name := withoutSlash raw.toList
  match replica? name with
  | some (service, number) => .text (String.ofList (service ++ '-' :: number))
  | none => (labels.getNull nameLabel).orElse (.text (String.ofList name))

/-- The logical name of a container. -/
def nameOf (labels : Entries) (raw : Value) : Except Fault Value :=
  match raw with
  | .text s => .ok (nameOfText labels s)
  | raw =>
      .error (.ofMessage .lacking
        ("'" ++ raw.kindName ++ "' object has no attribute 'startswith'"))

/-- The text between the first two slashes that have no line feed between them. -/
def betweenSlashes? : List Char → Option (List Char)
  | [] => none
  | c :: rest =>
      let segment := rest.takeWhile fun c => c != '/' && c != '\n'
      if c = '/' ∧ (rest.drop segment.length).head? = some '/' then
        some segment
      else
        betweenSlashes? rest

/-- The group that an image names; an image that names none is noted. -/
def groupOfImage (image : Value) : Report Value :=
  match image with
  | .text s =>
      match betweenSlashes? s.toList with
      | some group => pure (.text (String.ofList group))
      | none => do
          Report.note .debug .identity ("no group for " ++ s)
          return .text ""
  | image =>
      .fail (.ofMessage .type
        ("expected string or bytes-like object, got '" ++ image.kindName ++ "'"))

/-- The group of a container. -/
def groupOf (labels : Entries) (image : Value) : Report Value :=
  let label := labels.getNull groupLabel
  if label.isTruthy then pure label else groupOfImage image

end ContainerWatch.Identity
