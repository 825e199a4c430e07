import ContainerWatch.Proofs.Json.ReadBack

/-!
# Values in JSON

Which values have a JSON text, and what is read from it: the value itself, with lists for tuples and
strings for the keys of dictionaries.
-/

namespace ContainerWatch.Json

mutual

/-- Whether a value has a JSON text, which takes that all of its parts have one and all keys are
    strings or can be written as such. -/
def isEncodable : Value → Bool
  | .null | .bool _ | .int _ | .float _ | .text _ => true
  | .list items | .tuple items => areEncodable items
  | .dict entries => haveEncodable entries
  | .bytes _ | .set _ | .loop _ | .foreign _ => false

/-- Whether each of several values has a JSON text. -/
def areEncodable : List Value → Bool
  | [] => true
  | item :: items => isEncodable item && areEncodable items

/-- Whether each of several entries has a key that is written as a string and a value with a JSON
    text. -/
def haveEncodable : List (Value × Value) → Bool
  | [] => true
  | (key, value) :: entries => (keyText? key).isSome && isEncodable value && haveEncodable entries

end

mutual

/-- A value in the terms of JSON: tuples are lists, and keys are strings, of which a later one
    overrules the same one before it. -/
def plain : Value → Value
  | .list items | .tuple items => .list (plainItems items)
  | .dict entries => .dict (Entries.ofPairs (plainEntries entries))
  | value => value

/-- Several values in the terms of JSON. -/
def plainItems : List Value → List Value
  | [] => []
  | item :: items => plain item :: plainItems items

/-- Several entries in the terms of JSON. -/
def plainEntries : List (Value × Value) → List (Value × Value)
  | [] => []
  | (key, value) :: entries => (.text ((keyText? key).getD ""), plain value) :: plainEntries entries

end

mutual

/-- Every number in floating point that is written for a value is a finite number of the format. -/
def FloatsFinite : Value → Prop
  | .float x => x.Canonical
  | .list items | .tuple items => AllFloatsFinite items
  | .dict entries => EntriesFloatsFinite entries
  | _ => True

/-- Every number in floating point that is written for several values is finite. -/
def AllFloatsFinite : List Value → Prop
  | [] => True
  | item :: items => FloatsFinite item ∧ AllFloatsFinite items

/-- Every number in floating point that is written for the values of several entries is finite. -/
def EntriesFloatsFinite : List (Value × Value) → Prop
  | [] => True
  | (_, value) :: entries => FloatsFinite value ∧ EntriesFloatsFinite entries

end

mutual

/-- The text that is written for a value denotes the value in the terms of JSON. -/
theorem denotes_write (value : Value) (encodable : isEncodable value = true)
    (finite : FloatsFinite value) :
    ∃ text, write value = .ok text ∧ Denotes text (plain value) := by
  match value with
  | .null => exact ⟨_, rfl, denotes_null⟩
  | .bool b => exact ⟨_, rfl, denotes_bool b⟩
  | .int n => exact ⟨_, rfl, denotes_of_isNumeral (isNumeral_intText n)⟩
  | .float x => exact ⟨_, rfl, denotes_of_isNumeral (isNumeral_floatText finite)⟩
  | .text s => exact ⟨_, rfl, denotes_text s⟩
  | .list items =>
      obtain ⟨texts, written, denote⟩ := denotes_writeItems items encodable finite
      exact ⟨_, by rw [write, written]; rfl, denotes_array denote⟩
  | .tuple items =>
      obtain ⟨texts, written, denote⟩ := denotes_writeItems items encodable finite
      exact ⟨_, by rw [write, written]; rfl, denotes_array denote⟩
  | .dict entries =>
      obtain ⟨members, written, denote⟩ := denotes_writeEntries entries encodable finite
      exact ⟨_, by rw [write, written]; rfl, denotes_object denote⟩
  | .bytes _ | .set _ | .loop _ | .foreign _ => cases encodable

theorem denotes_writeItems (items : List Value) (encodable : areEncodable items = true)
    (finite : AllFloatsFinite items) :
    ∃ texts, writeItems items = .ok texts ∧ List.Forall₂ Denotes texts (plainItems items) := by
  match items with
  | [] => exact ⟨[], rfl, .nil⟩
  | item :: items =>
      obtain ⟨first, others⟩ := Bool.and_eq_true_iff.mp encodable
      obtain ⟨text, written, denotes⟩ := denotes_write item first finite.1
      obtain ⟨texts, writtens, denote⟩ := denotes_writeItems items others finite.2
      exact ⟨text :: texts, by rw [writeItems, written, writtens]; rfl, .cons denotes denote⟩

/-- The members that are written for several entries denote the entries in the terms of JSON. -/
theorem denotes_writeEntries (entries : List (Value × Value))
    (encodable : haveEncodable entries = true) (finite : EntriesFloatsFinite entries) :
    ∃ members : List (String × String), writeEntries entries = .ok (members.map memberText) ∧
      List.Forall₂ DenotesMember members (plainEntries entries) := by
  match entries with
  | [] => exact ⟨[], rfl, .nil⟩
  | (key, value) :: entries =>
      obtain ⟨first, others⟩ := Bool.and_eq_true_iff.mp encodable
      obtain ⟨hasName, hasText⟩ := Bool.and_eq_true_iff.mp first
      obtain ⟨name, named⟩ := Option.isSome_iff_exists.mp hasName
      obtain ⟨text, written, denotes⟩ := denotes_write value hasText finite.1
      obtain ⟨members, writtens, denote⟩ := denotes_writeEntries entries others finite.2
      refine ⟨(name, text) :: members, ?_, .cons ⟨?_, denotes⟩ denote⟩
      · simp only [writeEntries, named, written, writtens]
        rfl
      · simp only [named, Option.getD_some]

end

mutual

/-- A value that is not encodable is not written. -/
theorem write_of_not_encodable (value : Value) (notEncodable : isEncodable value = false) :
    ∃ error, write value = .error error := by
  match value with
  | .null | .bool _ | .int _ | .float _ | .text _ => cases notEncodable
  | .list items =>
      obtain ⟨error, failed⟩ := writeItems_of_not_encodable items notEncodable
      exact ⟨error, by rw [write, failed]; rfl⟩
  | .tuple items =>
      obtain ⟨error, failed⟩ := writeItems_of_not_encodable items notEncodable
      exact ⟨error, by rw [write, failed]; rfl⟩
  | .dict entries =>
      obtain ⟨error, failed⟩ := writeEntries_of_not_encodable entries notEncodable
      exact ⟨error, by rw [write, failed]; rfl⟩
  | .bytes _ | .set _ | .foreign _ => exact ⟨_, rfl⟩
  | .loop items =>
      cases written : writeItems items with
      | ok texts => exact ⟨.circular, by rw [write, written]⟩
      | error error => exact ⟨error, by rw [write, written]⟩

theorem writeItems_of_not_encodable (items : List Value)
    (notEncodable : areEncodable items = false) : ∃ error, writeItems items = .error error := by
  match items with
  | [] => cases notEncodable
  | item :: items =>
      cases written : write item with
      | error error => exact ⟨error, by rw [writeItems, written]⟩
      | ok text =>
          rcases Bool.and_eq_false_iff.mp notEncodable with first | others
          · obtain ⟨error, failed⟩ := write_of_not_encodable item first
            rw [failed] at written
            cases written
          · obtain ⟨error, failed⟩ := writeItems_of_not_encodable items others
            exact ⟨error, by simp only [writeItems, written, failed]; rfl⟩

theorem writeEntries_of_not_encodable (entries : List (Value × Value))
    (notEncodable : haveEncodable entries = false) :
    ∃ error, writeEntries entries = .error error := by
  match entries with
  | [] => cases notEncodable
  | (key, value) :: entries =>
      cases named : keyText? key with
      | none => exact ⟨.noKey key.kindName, by simp only [writeEntries, named]⟩
      | some name =>
          cases written : write value with
          | error error => exact ⟨error, by simp only [writeEntries, named, written]⟩
          | ok text =>
              rcases Bool.and_eq_false_iff.mp notEncodable with first | others
              · rw [named, Option.isSome_some, Bool.true_and] at first
                obtain ⟨error, failed⟩ := write_of_not_encodable value first
                rw [failed] at written
                cases written
              · obtain ⟨error, failed⟩ := writeEntries_of_not_encodable entries others
                exact ⟨error, by simp only [writeEntries, named, written, failed]; rfl⟩

end

end ContainerWatch.Json
