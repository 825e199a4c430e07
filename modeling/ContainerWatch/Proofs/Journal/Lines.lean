import ContainerWatch.Journal.Layout
import ContainerWatch.Proofs.Journal.Records
import ContainerWatch.Proofs.Json.Encoding

/-!
# Lines of the journal that are read back

A record that is laid out as JSON makes one line of printable characters, from which its parts are
read back.  An extra attribute without a JSON text is read back as its form in words, whatever the
others are.
-/

namespace ContainerWatch.Journal

open Json

/-- What is read back of an extra attribute: the value in the terms of JSON, or its form in words if
    there is a part that JSON lacks. -/
def extraRead (value : Value) : Value :=
  if isEncodable value then plain value else .text value.shown

/-- What is read back of a record's line. -/
def lineRead (hostname : String) (record : Record) (instant : Instant) (message : String)
    (faultText : Option String) : Entries :=
  [(.text "timestamp", .text instant.iso), (.text "level", record.levelName),
      (.text "logger", record.logger), (.text "message", .text message),
      (.text "service", .text "dockwatch")]
    ++ (if hostname.isEmpty then [] else [(.text "hostname", .text hostname)])
    ++ (match faultText with
        | some text => [(.text "exception", .text text)]
        | none => [])
    ++ (if record.extra.isEmpty then []
        else [(.text "extra", .dict (record.extra.map fun (key, value) => (key, extraRead value)))])

/-- The text that is written for an extra attribute denotes what is read back of it. -/
theorem denotes_extraJson {value : Value} (finite : FloatsFinite value) :
    Denotes (extraJson value) (extraRead value) := by
  unfold extraJson extraRead
  cases encodable : isEncodable value with
  | true =>
      obtain ⟨text, written, denotes⟩ := denotes_write value encodable finite
      simpa [written] using denotes
  | false =>
      obtain ⟨error, failed⟩ := write_of_not_encodable value encodable
      simpa [failed] using denotes_text value.shown

theorem writeObject_eq (members : List (String × String)) :
    writeObject members
      = "\x7b" ++ String.intercalate ", " (members.map memberText) ++ "\x7d" := rfl

/-- The object of the extra attributes denotes the dictionary of what is read back of them. -/
theorem denotes_extras {extra : Entries} (named : extra.Named)
    (finite : ∀ entry ∈ extra, FloatsFinite entry.2) :
    Denotes (writeObject (extra.map fun (key, value) => (attributeName key, extraJson value)))
      (.dict (extra.map fun (key, value) => (key, extraRead value))) := by
  have all : List.Forall₂ DenotesMember
      (extra.map fun (key, value) => (attributeName key, extraJson value))
      (extra.map fun (key, value) => (key, extraRead value)) := by
    rw [List.forall₂_map_left_iff, List.forall₂_map_right_iff, List.forall₂_same]
    rintro ⟨key, value⟩ member
    obtain ⟨name, rfl⟩ := named.texts _ member
    exact ⟨rfl, denotes_extraJson (finite _ member)⟩
  have read : Entries.Named (extra.map fun (key, value) => (key, extraRead value)) := by
    refine ⟨fun entry member => ?_, by rw [List.map_map]; exact named.distinct⟩
    obtain ⟨⟨key, value⟩, among, rfl⟩ := List.mem_map.mp member
    exact named.texts (key, value) among
  have denotes := denotes_object all
  rwa [read.ofPairs_eq_self] at denotes

theorem named_lineRead (hostname : String) (record : Record) (instant : Instant) (message : String)
    (faultText : Option String) :
    (lineRead hostname record instant message faultText).Named := by
  constructor
  all_goals
    unfold lineRead
    cases faultText <;> split_ifs <;> simp

/-- The members of a record's line, as they are written. -/
def lineMembers (hostname logger level : String) (extra : Entries) (instant : Instant)
    (message : String) (faultText : Option String) : List (String × String) :=
  [("timestamp", writeString instant.iso), ("level", writeString level),
      ("logger", writeString logger), ("message", writeString message),
      ("service", writeString serviceName)]
    ++ (if hostname.isEmpty then [] else [("hostname", writeString hostname)])
    ++ (match faultText with
        | some text => [("exception", writeString text)]
        | none => [])
    ++ (if extra.isEmpty then []
        else [("extra", writeObject (extra.map fun (key, value) =>
          (attributeName key, extraJson value)))])

section Lines

variable {record : Record} {instant : Instant} {message logger level : String}
  {faultText : Option String}

/-- The line of a record is the object of its members. -/
theorem jsonLine_eq (hostname : String) (named : record.logger = .text logger)
    (levelled : record.levelName = .text level) (dated : record.instant = .ok instant)
    (filled : record.messageText = .ok message) (noted : record.note.text? = .ok faultText) :
    jsonLine hostname record = .ok (writeObject
      (lineMembers hostname logger level record.extra instant message faultText)) := by
  cases faultText <;>
    simp only [jsonLine, dated, filled, noted, named, levelled, jsonOf, write, bind, Except.bind,
      pure, Except.pure, lineMembers, List.isEmpty_map]

/-- The members of a record's line denote what is read back of the record. -/
theorem denotes_lineMembers (hostname : String) (named : record.logger = .text logger)
    (levelled : record.levelName = .text level) (instant : Instant) (message : String)
    (faultText : Option String)
    (extras : Denotes
      (writeObject (record.extra.map fun (key, value) => (attributeName key, extraJson value)))
      (.dict (record.extra.map fun (key, value) => (key, extraRead value)))) :
    List.Forall₂ DenotesMember
      (lineMembers hostname logger level record.extra instant message faultText)
      (lineRead hostname record instant message faultText) := by
  have text (name s : String) : DenotesMember (name, writeString s) (.text name, .text s) :=
    ⟨rfl, denotes_text s⟩
  unfold lineMembers lineRead
  rw [named, levelled]
  refine List.rel_append (List.rel_append (List.rel_append ?_ ?_) ?_) ?_
  · exact .cons (text _ _) (.cons (text _ _) (.cons (text _ _) (.cons (text _ _)
      (.cons (text _ _) .nil))))
  · split
    · exact .nil
    · exact .cons (text _ _) .nil
  · cases faultText with
    | some faultText => exact .cons (text _ _) .nil
    | none => exact .nil
  · split
    · exact .nil
    · exact .cons ⟨rfl, extras⟩ .nil

/-- The line of a well-typed record that has an instant and a message is read back as an object of
    its parts, and consists of printable characters. -/
theorem jsonLine_reads_back (hostname : String) (wellTyped : record.WellTyped)
    (dated : record.instant = .ok instant) (filled : record.messageText = .ok message)
    (finite : ∀ entry ∈ record.extra, FloatsFinite entry.2) :
    ∃ line faultText, jsonLine hostname record = .ok line ∧ Printable line.toList ∧
      record.note.text? = .ok faultText ∧ (faultText = none ↔ record.note = .absent) ∧
      read? line = some (.dict (lineRead hostname record instant message faultText)) := by
  obtain ⟨logger, named⟩ := wellTyped.logger
  obtain ⟨level, levelled⟩ := wellTyped.level
  obtain ⟨faultText, noted, absent⟩ := wellTyped.note.text?
  have extras := denotes_extras wellTyped.named finite
  have denotes := denotes_object
    (denotes_lineMembers hostname named levelled instant message faultText extras)
  rw [(named_lineRead _ _ _ _ _).ofPairs_eq_self, ← writeObject_eq] at denotes
  exact ⟨_, faultText, jsonLine_eq hostname named levelled dated filled noted, denotes.printable,
    noted, absent, read?_of_denotes denotes⟩

end Lines

/-- A record with a template for its message and with extra attributes: a dictionary whose keys are
    no strings, a tuple, and a list that contains itself behind a set of bytes. -/
def exampleRecord : Record where
  logger := .text "dockwatch.main"
  levelName := .text "INFO"
  message := .text "%s is \"up\""
  args := .tuple [.text "☃"]
  created := .int 60
  note := .blank
  extra := [(.text "ports", .dict [(.bool true, .null), (.null, .list [])]),
    (.text "pair", .tuple [.float (.finite false 4503599627370496 (-52)), .text "🐳\n"]),
    (.text "ring", .loop [.set [.bytes [1]]])]

theorem wellTyped_exampleRecord : exampleRecord.WellTyped where
  logger := ⟨_, rfl⟩
  level := ⟨_, rfl⟩
  note := .blank
  named := ⟨by simp [exampleRecord], by simp [exampleRecord]⟩

/-- The line of the record tells all of it, and the list that contains itself in words. -/
theorem jsonLine_reads_back_of_example :
    ∃ line, jsonLine "host" exampleRecord = .ok line ∧ Printable line.toList ∧
      read? line = some (.dict
        [(.text "timestamp", .text "1970-01-01T00:01:00+00:00"), (.text "level", .text "INFO"),
          (.text "logger", .text "dockwatch.main"), (.text "message", .text "☃ is \"up\""),
          (.text "service", .text "dockwatch"), (.text "hostname", .text "host"),
          (.text "exception", .text "NoneType: None"),
          (.text "extra", .dict
            [(.text "ports", .dict [(.text "true", .null), (.text "null", .list [])]),
              (.text "pair", .list [.float (.finite false 4503599627370496 (-52)), .text "🐳\n"]),
              (.text "ring", .text "[\x7bb'\\x01'\x7d, [...]]")])]) := by
  have finite : ∀ entry ∈ exampleRecord.extra, FloatsFinite entry.2 := by
    have canonical : Binary64.Canonical (.finite false 4503599627370496 (-52)) := by decide
    simp [exampleRecord, FloatsFinite, AllFloatsFinite, EntriesFloatsFinite, canonical]
  have dated : exampleRecord.instant = .ok ⟨60000000, by decide, by decide⟩ := rfl
  have filled : exampleRecord.messageText = .ok "☃ is \"up\"" := rfl
  obtain ⟨line, faultText, written, printable, noted, _, reads⟩ :=
    jsonLine_reads_back "host" wellTyped_exampleRecord dated filled finite
  cases noted
  exact ⟨line, written, printable, reads⟩

end ContainerWatch.Journal
