import ContainerWatch.Journal.Logbook
import ContainerWatch.Proofs.Entries

/-!
# Well-typed records

The records whose standard attributes are what they should be, and what the extra attributes are:
those that are set under other names than the standard ones.  The records that are made for messages
are well-typed.
-/

namespace ContainerWatch.Journal

/-- A note that says of a fault what a record may say: nothing, that there is none, or the fault,
    which may be given as a triple of its kind, itself and the way to it. -/
inductive FaultNote.WellTyped : FaultNote → Prop
  | absent : WellTyped .absent
  | blank : WellTyped .blank
  | fault (fault : Fault) : WellTyped (.fault fault)
  | noFault (kind : Value) : WellTyped (.other (.tuple [kind, .null, .null]))
  | foreign (kind : Value) {f : Foreign} {trail : String} (fault : f.trail = some trail) :
      WellTyped (.other (.tuple [kind, .foreign f, .null]))

/-- A note of a fault is put in words, and there are none only if nothing is said. -/
theorem FaultNote.WellTyped.text? {note : FaultNote} (wellTyped : note.WellTyped) :
    ∃ faultText, note.text? = .ok faultText ∧ (faultText = none ↔ note = .absent) := by
  cases wellTyped with
  | absent => exact ⟨_, rfl, by simp⟩
  | blank => exact ⟨_, rfl, by simp⟩
  | fault fault => exact ⟨_, rfl, by simp⟩
  | noFault kind => exact ⟨_, rfl, by simp⟩
  | @foreign kind f trail fault =>
      obtain ⟨kindName, shown, quoted, comparable, _⟩ := f
      cases fault
      exact ⟨_, rfl, by simp⟩

namespace Record

/-- A record whose standard attributes are of their kinds, and whose extra ones have names. -/
structure WellTyped (record : Record) : Prop where
  logger : ∃ name, record.logger = .text name
  level : ∃ name, record.levelName = .text name
  note : record.note.WellTyped
  named : record.extra.Named

/-- The names of the standard attributes. -/
def standardAttributes : List String :=
  ["name", "msg", "args", "levelname", "created", "exc_info"] ++ silentAttributes

/-- Setting an attribute that is not a standard one sets an extra one, and no other does. -/
theorem extra_set (record : Record) (name : String) (value : Value) :
    (record.set name value).extra
      = if name ∈ standardAttributes then record.extra
        else record.extra.put (.text name) value := by
  unfold set
  split_ifs <;> simp_all [standardAttributes]

section WellTyped

variable {record : Record}

theorem WellTyped.set (wellTyped : record.WellTyped) {name : String}
    (free : Logbook.reservedAttributes.contains name = false) (value : Value) :
    (record.set name value).WellTyped := by
  have named : (record.set name value).extra.Named := by
    rw [extra_set]
    split_ifs
    · exact wellTyped.named
    · exact wellTyped.named.put name value
  have others : (record.set name value).logger = record.logger ∧
      (record.set name value).levelName = record.levelName ∧
      (record.set name value).note = record.note := by
    have apart : name ≠ "name" ∧ name ≠ "levelname" ∧ name ≠ "exc_info" := by
      refine ⟨?_, ?_, ?_⟩
      all_goals
        rintro rfl
        cases free
    unfold Record.set
    split_ifs <;> simp_all
  obtain ⟨logger, level, note⟩ := others
  exact ⟨logger ▸ wellTyped.logger, level ▸ wellTyped.level, note ▸ wellTyped.note, named⟩

theorem WellTyped.setAll (wellTyped : record.WellTyped) {fields : List (String × Value)}
    (free : ∀ field ∈ fields, Logbook.reservedAttributes.contains field.1 = false) :
    (record.setAll fields).WellTyped := by
  induction fields generalizing record with
  | nil => exact wellTyped
  | cons field fields ih =>
      obtain ⟨first, others⟩ := List.forall_mem_cons.mp free
      exact ih (wellTyped.set first field.2) others

theorem exists_levelNameOf (level : Int) : ∃ name, levelNameOf (.int level) = .ok (.text name) := by
  simp only [levelNameOf, Value.unhashable?, Value.text?, Option.bind_none]
  split
  case h_1 => exact ⟨_, rfl⟩
  case h_2 numbered => cases numbered
  case h_3 => exact ⟨_, rfl⟩

end WellTyped

end Record

/-- The record that is made of a message at a level with a number is well-typed. -/
theorem wellTyped_of_makeRecord {logger : String} {level : Int} {message created : Value}
    {extra : List (String × Value)} {record : Record}
    (made : Logbook.makeRecord logger (.int level) message extra created = .ok record) :
    record.WellTyped := by
  obtain ⟨name, named⟩ := Record.exists_levelNameOf level
  simp only [Logbook.makeRecord, named, bind, Except.bind, pure, Except.pure] at made
  split at made
  case h_1 => cases made
  case h_2 free =>
    cases made
    refine Record.WellTyped.setAll ⟨⟨_, rfl⟩, ⟨_, rfl⟩, .absent, Entries.named_nil⟩ ?_
    intro field member
    simpa using List.find?_eq_none.mp free field member

end ContainerWatch.Journal
