import ContainerWatch.Binary64.Decimal
import ContainerWatch.Instant
import ContainerWatch.Text.Quoted
import ContainerWatch.Value.Basic

/-!
# Printed values

The form of a value inside other values and in messages, and its text, which differs from that form
for texts and for values of foreign kinds.
-/

namespace ContainerWatch.Value

/-- The items of a sequence between two brackets. -/
def bracketed (opening : String) (items : List String) (closing : String) : String :=
  opening ++ String.intercalate ", " items ++ closing

mutual

/-- The form of a value inside other values. -/
def quoted : Value → String
  | null => "None"
  | bool b => if b then "True" else "False"
  | int n => String.ofList (Text.signedDecimal n)
  | float x => x.shortestText
  | text s => Text.quoted s
  | bytes values => Text.quotedBytes values
  | list items => bracketed "[" (quotedItems items) "]"
  | loop items => bracketed "[" (quotedItems items ++ ["[...]"]) "]"
  | tuple items =>
      match quotedItems items with
      | [item] => "(" ++ item ++ ",)"
      | forms => bracketed "(" forms ")"
  | set items => if items.isEmpty then "set()" else bracketed "\x7b" (quotedItems items) "\x7d"
  | dict entries => bracketed "\x7b" (quotedEntries entries) "\x7d"
  | foreign f => f.quoted

/-- The forms of several values. -/
def quotedItems : List Value → List String
  | [] => []
  | item :: items => quoted item :: quotedItems items

/-- The forms of the entries of a dictionary. -/
def quotedEntries : List (Value × Value) → List String
  | [] => []
  | (key, value) :: entries => (quoted key ++ ": " ++ quoted value) :: quotedEntries entries

end

/-- The text of a value. -/
def shown : Value → String
  | text s => s
  | foreign f => f.shown
  | value => value.quoted

/-- An instant as a value. -/
def ofInstant (instant : Instant) : Value :=
  .foreign ⟨"datetime.datetime", instant.spaced, instant.quoted, true, none⟩

end ContainerWatch.Value
