import ContainerWatch.Proofs.Journal.Lines
import ContainerWatch.Proofs.Json.Validity
import ContainerWatch.Proofs.Reports

/-!
# Which lines of the journal are JSON

A record that is laid out as JSON makes a JSON text if its extra attributes hold no number that is
none or that is infinite.  Such a number has a text that is written, though JSON has none for it, so
the trial whether a value has a text does not put the value in words, and the line is no JSON.
-/

namespace ContainerWatch.Journal

open Json

section Line

variable {hostname line : String} {record : Record} {value : Value} {text : String}

theorem write_of_jsonOf (told : jsonOf value = .ok text) : write value = .ok text := by
  cases written : write value with
  | ok other =>
      rw [jsonOf, written] at told
      rw [Except.ok.inj told]
  | error error =>
      rw [jsonOf, written] at told
      cases error <;> cases told

/-- A value that has no JSON text is put in words, as a string. -/
theorem extraJson_of_not_encodable (notEncodable : isEncodable value = false) :
    extraJson value = writeString value.shown := by
  obtain ⟨error, failed⟩ := write_of_not_encodable value notEncodable
  rw [extraJson, failed]

/-- The text of an extra attribute is derived unless the attribute has a JSON text with a number that
    JSON lacks. -/
theorem judged_extraJson (value : Value) :
    Judged .value (!isEncodable value || isExpressible value) (extraJson value) := by
  cases encodable : isEncodable value with
  | true =>
      obtain ⟨text, written, judged⟩ := judged_write value encodable
      rw [extraJson, written]
      exact judged
  | false =>
      rw [extraJson_of_not_encodable encodable]
      exact judged_string value.shown

theorem allJudged_extras (extra : Entries) :
    AllJudged .member (extra.all fun entry => !isEncodable entry.2 || isExpressible entry.2)
      ((extra.map fun (key, value) => (attributeName key, extraJson value)).map memberText) := by
  induction extra with
  | nil => exact allJudged_nil
  | cons entry extra ih => exact ih.cons (judged_member _ (judged_extraJson entry.2))

/-- The member of the extra attributes, if there are any, is judged by them. -/
theorem allJudged_extraMember (extra : Entries) :
    AllJudged .member (extra.all fun entry => !isEncodable entry.2 || isExpressible entry.2)
      ((if extra.isEmpty then [] else [("extra", writeObject (extra.map fun (key, value) =>
        (attributeName key, extraJson value)))]).map memberText) := by
  cases extra with
  | nil => exact allJudged_nil
  | cons entry extra =>
      have object := judged_object (allJudged_extras (entry :: extra))
      rw [← writeObject_eq] at object
      exact (judged_member "extra" object).singleton

/-- The members of a line are judged by those that are no strings: the level, the logger and the
    extra attributes. -/
theorem allJudged_members {level logger : String} {host noted extra : List (String × String)}
    {levelGood loggerGood extraGood : Bool} (levelled : Judged .value levelGood level)
    (named : Judged .value loggerGood logger)
    (hosts : AllJudged .member true (host.map memberText))
    (notes : AllJudged .member true (noted.map memberText))
    (extras : AllJudged .member extraGood (extra.map memberText)) (instant message : String) :
    AllJudged .member (levelGood && loggerGood && extraGood)
      (([("timestamp", writeString instant), ("level", level), ("logger", logger),
          ("message", writeString message), ("service", writeString serviceName)]
        ++ host ++ noted ++ extra).map memberText) := by
  have told (name s : String) : Judged .member true (memberText (name, writeString s)) :=
    judged_member name (judged_string s)
  have service := (told "service" serviceName).singleton
  have loggers := (service.cons (told "message" message)).cons (judged_member "logger" named)
  have levels := loggers.cons (judged_member "level" levelled)
  have standard := levels.cons (told "timestamp" instant)
  have all := ((standard.append hosts).append notes).append extras
  simp only [Bool.true_and, Bool.and_true] at all
  rw [List.map_append, List.map_append, List.map_append]
  exact all

/-- The members of a record's line are judged by what the record holds. -/
theorem exists_members_of_jsonLine (laid : jsonLine hostname record = .ok line) :
    ∃ members : List (String × String), line = writeObject members ∧
      (record.extra ≠ [] → ("extra", writeObject (record.extra.map fun (key, value) =>
        (attributeName key, extraJson value))) ∈ members) ∧
      AllJudged .member
        (isExpressible record.levelName && isExpressible record.logger
          && record.extra.all fun entry => !isEncodable entry.2 || isExpressible entry.2)
        (members.map memberText) := by
  obtain ⟨instant, -, laid⟩ := exists_of_bind_eq_ok laid
  obtain ⟨message, -, laid⟩ := exists_of_bind_eq_ok laid
  obtain ⟨faultText, -, laid⟩ := exists_of_bind_eq_ok laid
  obtain ⟨level, levelled, laid⟩ := exists_of_bind_eq_ok laid
  obtain ⟨logger, named, laid⟩ := exists_of_bind_eq_ok laid
  refine ⟨_, (Except.ok.inj laid).symm, ?_, ?_⟩
  · intro filled
    refine List.mem_append_right _ ?_
    rw [List.isEmpty_map, if_neg (by simpa using filled)]
    exact List.mem_singleton_self _
  · have told (name s : String) : AllJudged .member true [memberText (name, writeString s)] :=
      (judged_member name (judged_string s)).singleton
    rw [List.isEmpty_map]
    apply allJudged_members (judged_of_write (write_of_jsonOf levelled))
      (judged_of_write (write_of_jsonOf named)) _ _ (allJudged_extraMember record.extra)
    · split
      · exact allJudged_nil
      · exact told "hostname" hostname
    · cases faultText with
      | none => exact allJudged_nil
      | some text => exact told "exception" text

/-- A line is JSON exactly if the record holds no number that JSON lacks where it is written. -/
theorem isJson_iff_of_jsonLine (laid : jsonLine hostname record = .ok line) :
    IsJson line.toList ↔ isExpressible record.levelName = true ∧
      isExpressible record.logger = true ∧
      ∀ entry ∈ record.extra, isEncodable entry.2 = true → isExpressible entry.2 = true := by
  obtain ⟨members, rfl, -, judged⟩ := exists_members_of_jsonLine laid
  have object := judged_object judged
  rw [← writeObject_eq] at object
  rw [object.isJson_iff]
  simp [and_assoc, or_iff_not_imp_left]

/-- The line that a record is laid out as is an object.  An extra attribute that has no JSON text
    stands in it in words, as a string.  The line is JSON exactly if none of the values that stand
    in it by themselves, at any depth, is a number in floating point that is none or that is
    infinite. -/
theorem jsonLine_is_json_iff (laid : jsonLine hostname record = .ok line) :
    (∃ members : List (String × String), line = writeObject members ∧
      (record.extra ≠ [] → ("extra", writeObject (record.extra.map fun (key, value) =>
        (attributeName key, extraJson value))) ∈ members)) ∧
      (∀ entry ∈ record.extra, isEncodable entry.2 = false →
        extraJson entry.2 = writeString entry.2.shown ∧ IsString (extraJson entry.2).toList) ∧
      (IsJson line.toList ↔ isExpressible record.levelName = true ∧
        isExpressible record.logger = true ∧
        ∀ entry ∈ record.extra, isEncodable entry.2 = true → isExpressible entry.2 = true) := by
  obtain ⟨members, object, filled, -⟩ := exists_members_of_jsonLine laid
  refine ⟨⟨members, object, filled⟩, ?_, isJson_iff_of_jsonLine laid⟩
  intro entry _ notEncodable
  have inWords := extraJson_of_not_encodable notEncodable
  refine ⟨inWords, ?_⟩
  rw [inWords]
  exact isString_writeString entry.2.shown

end Line

/-- The line of a record with a list that contains itself is JSON, and has the list in words. -/
theorem jsonLine_is_json_of_example :
    ∃ line, jsonLine "host" exampleRecord = .ok line ∧ IsJson line.toList ∧
      extraJson (.loop [.set [.bytes [1]]]) = "\"[\x7bb'\\\\x01'\x7d, [...]]\"" := by
  have dated : exampleRecord.instant = .ok ⟨60000000, by decide, by decide⟩ := rfl
  have filled : exampleRecord.messageText = .ok "☃ is \"up\"" := rfl
  have noted : exampleRecord.note.text? = .ok (some "NoneType: None") := rfl
  have laid := jsonLine_eq "host" rfl rfl dated filled noted
  obtain ⟨-, inWords, isJson⟩ := jsonLine_is_json_iff laid
  have ring := inWords (.text "ring", .loop [.set [.bytes [1]]]) (by simp [exampleRecord]) rfl
  have expressible : ∀ entry ∈ exampleRecord.extra,
      isEncodable entry.2 = true → isExpressible entry.2 = true := by
    simp only [exampleRecord, List.forall_mem_cons]
    refine ⟨fun _ => rfl, fun _ => rfl, fun _ => rfl, ?_⟩
    simp
  exact ⟨_, laid, isJson.mpr ⟨rfl, rfl, expressible⟩, ring.1.trans rfl⟩

/-- A record with a number that is none as an extra attribute. -/
def ratioRecord : Record where
  logger := .text "dockwatch.main"
  levelName := .text "INFO"
  message := .text "m"
  args := .tuple []
  created := .int 0
  note := .absent
  extra := [(.text "ratio", .float .nan)]

/-- A number that is none stands in the line as such, and the line is no JSON. -/
theorem jsonLine_is_no_json_of_nan :
    ∃ line, jsonLine "" ratioRecord = .ok line ∧ extraJson (.float .nan) = "NaN" ∧
      ¬IsJson line.toList := by
  have dated : ratioRecord.instant = .ok ⟨0, by decide, by decide⟩ := rfl
  have filled : ratioRecord.messageText = .ok "m" := rfl
  have noted : ratioRecord.note.text? = .ok none := rfl
  have laid := jsonLine_eq "" rfl rfl dated filled noted
  refine ⟨_, laid, rfl, fun isJson => ?_⟩
  obtain ⟨-, -, expressible⟩ := (isJson_iff_of_jsonLine laid).mp isJson
  have finite : isExpressible (.float .nan) = true :=
    expressible (.text "ratio", .float .nan) (List.mem_singleton_self _) rfl
  cases finite

end ContainerWatch.Journal
