import ContainerWatch.Proofs.Instants
import ContainerWatch.Proofs.Journal.Lines
import ContainerWatch.Proofs.Reports
import ContainerWatch.Session

/-!
# Notices that are read back from the journal

The entry that a session writes for a notice has the fields of the notice as its extra attributes.
None of them is named for a standard attribute, none of the texts is taken for a template, and all of
them stand in the line of the entry as they are.  So the notice is found from its line.
-/

namespace ContainerWatch

open Json

/-- A notice whose identifier, name and group are texts. -/
def Notice.told (containerId name group : String) (instant : Instant) (started : Bool) : Notice :=
  ⟨.text containerId, .text name, .text group, instant, .bool started⟩

namespace Journal

/-! ## Reading a line -/

/-- The members of a line. -/
def membersOfLine? (line : String) : Option Entries :=
  match read? line with
  | some (.dict members) => some members
  | _ => none

/-- The message of a line. -/
def messageOfLine? (line : String) : Option String := do
  let members ← membersOfLine? line
  (← Entries.get? members "message").text?

/-- The notice that some fields tell. -/
def noticeOfFields? (fields : Entries) : Option Notice := do
  let containerId ← fields.get? "container_id"
  let name ← fields.get? "container_name"
  let group ← fields.get? "group"
  let ts ← fields.get? "ts"
  let status ← fields.get? "status"
  let instant ← Instant.read? (← ts.text?)
  return ⟨containerId, name, group, instant, status⟩

/-- The notice that the extra attributes of a line tell. -/
def noticeOfLine? (line : String) : Option Notice := do
  let members ← membersOfLine? line
  match ← Entries.get? members "extra" with
  | .dict fields => noticeOfFields? fields
  | _ => none

/-! ## The record of a notice -/

/-- The record that is made of a notice: its message, with its fields as extra attributes. -/
def recordOf (notice : Notice) (created : Value) : Except Fault Record :=
  Logbook.makeRecord Part.command.name (.int Level.info.number)
    (.text (Session.noticeEntry notice).message) notice.fields created

/-- The record that is made of a notice is that of its entry: no field is named for a standard
    attribute. -/
theorem recordOf_eq (notice : Notice) (created : Value) :
    recordOf notice created = .ok (.ofEntry (Session.noticeEntry notice) created) := rfl

section Line

variable {containerId name group hostname line : String} {instant stamped : Instant}
  {started : Bool} {created : Value} {record : Record}

/-- The fields of a notice as a dictionary. -/
def fieldsOf (notice : Notice) : Entries :=
  notice.fields.map fun (name, value) => (.text name, value)

theorem named_fieldsOf (notice : Notice) : (fieldsOf notice).Named := by
  constructor
  · intro entry member
    obtain ⟨field, _, rfl⟩ := List.mem_map.mp member
    exact ⟨field.1, rfl⟩
  · simp [fieldsOf, Notice.fields]

/-- The fields of a notice are read back as they are. -/
theorem extraRead_fieldsOf :
    (fieldsOf (.told containerId name group instant started)).map
        (fun (key, value) => (key, extraRead value))
      = fieldsOf (.told containerId name group instant started) := by
  simp [fieldsOf, Notice.fields, Notice.told, extraRead, isEncodable, plain]

theorem noticeOfFields?_fieldsOf :
    noticeOfFields? (fieldsOf (.told containerId name group instant started))
      = some (.told containerId name group instant started) := by
  simp [noticeOfFields?, fieldsOf, Notice.fields, Notice.told, Entries.get?, Value.text?,
    Instant.read?_iso]

/-- The fields of a notice have no numbers in floating point. -/
theorem floatsFinite_fieldsOf :
    ∀ entry ∈ fieldsOf (.told containerId name group instant started), FloatsFinite entry.2 := by
  simp [fieldsOf, Notice.fields, Notice.told, FloatsFinite]

/-- The members of a record's line that has extra attributes: its message, and what is read back of
    the attributes. -/
theorem get?_lineRead (hostname : String) (stamped : Instant) (message : String)
    (extra : record.extra ≠ []) :
    Entries.get? (lineRead hostname record stamped message none) "message"
        = some (.text message) ∧
      Entries.get? (lineRead hostname record stamped message none) "extra"
        = some (.dict (record.extra.map fun (key, value) => (key, extraRead value))) := by
  unfold lineRead
  cases hostname.isEmpty <;> simp [Entries.get?, extra]

/-- The line of a notice's record tells its message and the notice. -/
theorem exists_line_of_record (hostname : String) (dated : record.instant = .ok stamped)
    (made : recordOf (.told containerId name group instant started) created = .ok record) :
    ∃ line, jsonLine hostname record = .ok line ∧ Printable line.toList ∧
      messageOfLine? line
        = some ("container " ++ name ++ " " ++ (if started then "started" else "stopped")) ∧
      noticeOfLine? line = some (.told containerId name group instant started) := by
  have eq := Except.ok.inj ((recordOf_eq _ created).symm.trans made)
  have named : record.logger = .text Part.command.name := by rw [← eq]; rfl
  have levelled : record.levelName = .text Level.info.name := by rw [← eq]; rfl
  have filled : record.messageText = .ok
      ("container " ++ name ++ " " ++ (if started then "started" else "stopped")) := by
    rw [← eq]
    rfl
  have noted : record.note.text? = .ok none := by rw [← eq]; rfl
  have fields : record.extra = fieldsOf (.told containerId name group instant started) := by
    rw [← eq]
    rfl
  have extras := denotes_extras (named_fieldsOf (.told containerId name group instant started))
    floatsFinite_fieldsOf
  rw [← fields] at extras
  have denotes := denotes_object (denotes_lineMembers hostname named levelled stamped
    ("container " ++ name ++ " " ++ (if started then "started" else "stopped")) none extras)
  rw [(named_lineRead _ _ _ _ _).ofPairs_eq_self, ← writeObject_eq] at denotes
  obtain ⟨message, extra⟩ := get?_lineRead hostname stamped
    ("container " ++ name ++ " " ++ (if started then "started" else "stopped"))
    (show record.extra ≠ [] by rw [fields]; nofun)
  rw [fields, extraRead_fieldsOf] at extra
  refine ⟨_, jsonLine_eq hostname named levelled dated filled noted, denotes.printable, ?_, ?_⟩
  · simp [messageOfLine?, membersOfLine?, read?_of_denotes denotes, message, Value.text?]
  · simp [noticeOfLine?, membersOfLine?, read?_of_denotes denotes, extra, noticeOfFields?_fieldsOf]

/-- A line is written only at an instant. -/
theorem exists_instant_of_jsonLine (written : jsonLine hostname record = .ok line) :
    ∃ stamped, record.instant = .ok stamped := by
  obtain ⟨stamped, dated, -⟩ := exists_of_bind_eq_ok written
  exact ⟨stamped, dated⟩

/-- The line of a notice is a lossless encoding of it, for every host and whenever it is written.  Its
    record can be made, for none of the fields is named for a standard attribute; it is laid out in
    one line of printable characters, whose message tells the name and the change; and the notice is
    read back from the line as it was.  So a line was written for one notice only, on whichever host
    and whenever. -/
theorem line_tells_its_notice (containerId name group : String) (instant : Instant) (started : Bool)
    (hostname : String) (dated : Engine.instantAt created = .ok stamped) :
    ∃ record line,
      recordOf (.told containerId name group instant started) created = .ok record ∧
      jsonLine hostname record = .ok line ∧ Printable line.toList ∧
      messageOfLine? line
        = some ("container " ++ name ++ " " ++ (if started then "started" else "stopped")) ∧
      noticeOfLine? line = some (.told containerId name group instant started) ∧
      ∀ otherId otherName otherGroup otherInstant otherStarted otherHost otherCreated otherRecord,
        recordOf (.told otherId otherName otherGroup otherInstant otherStarted) otherCreated
          = .ok otherRecord →
        jsonLine otherHost otherRecord = .ok line →
        otherId = containerId ∧ otherName = name ∧ otherGroup = group ∧
          otherInstant = instant ∧ otherStarted = started := by
  have made := recordOf_eq (.told containerId name group instant started) created
  have dated : (Record.ofEntry (Session.noticeEntry
      (.told containerId name group instant started)) created).instant = .ok stamped := dated
  obtain ⟨line, written, printable, message, told⟩ := exists_line_of_record hostname dated made
  refine ⟨_, line, made, written, printable, message, told, ?_⟩
  intro otherId otherName otherGroup otherInstant otherStarted otherHost otherCreated otherRecord
    otherMade otherWritten
  obtain ⟨otherStamped, otherDated⟩ := exists_instant_of_jsonLine otherWritten
  obtain ⟨again, same, _, _, otherTold⟩ := exists_line_of_record otherHost otherDated otherMade
  obtain rfl : again = line := Except.ok.inj (same.symm.trans otherWritten)
  rw [told] at otherTold
  simpa [Notice.told, eq_comm] using otherTold

/-- A notice with texts that look like templates and escapes is read back from its line. -/
theorem line_tells_its_notice_of_example :
    ∃ record line,
      recordOf (.told "%s" "web \\\"1\"" "☃\n" .epoch true) (.int 60) = .ok record ∧
      jsonLine "host" record = .ok line ∧
      messageOfLine? line = some "container web \\\"1\" started" ∧
      noticeOfLine? line = some (.told "%s" "web \\\"1\"" "☃\n" .epoch true) := by
  have dated : Engine.instantAt (.int 60) = .ok ⟨60000000, by decide, by decide⟩ := rfl
  obtain ⟨record, line, made, written, _, message, told, _⟩ :=
    line_tells_its_notice "%s" "web \\\"1\"" "☃\n" .epoch true "host" dated
  exact ⟨record, line, made, written, message, told⟩

end Line

end Journal

end ContainerWatch
