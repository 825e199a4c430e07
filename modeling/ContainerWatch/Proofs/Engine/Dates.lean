import ContainerWatch.Proofs.Moments
import ContainerWatch.Proofs.Nanoseconds
import ContainerWatch.Proofs.Sightings

/-!
# The dates of containers and messages

A container is dated by the second of its creation, and a message by its nanoseconds or, without
any, by its second.  Nanoseconds keep their order and are off by less than a microsecond.  Seconds
have a date exactly in the years 1 to 9999; then the text of the date is that of a moment of the
calendar, which is read back as these seconds, and later seconds have greater texts.
-/

namespace ContainerWatch.Engine

open Journal

variable {instant : Instant}

theorem instantOutcome_eq_ok_iff {outcome : Except Instant.Error Instant} :
    instantOutcome outcome = .ok instant ↔ outcome = .ok instant := by
  cases outcome with
  | error error => simp [instantOutcome]
  | ok found => simp [instantOutcome]

theorem Container.instant_eq_ok_iff {container : Container} :
    container.instant = .ok instant ↔ instant.micros = container.created * 1000000 := by
  rw [Container.instant, instantOutcome_eq_ok_iff, Instant.ofSeconds, Instant.ofMicros_eq_ok_iff]

namespace Message

variable {message : Message}

theorem instant_eq_ok_iff_of_seconds (none : message.timeNano = 0) :
    message.instant = .ok instant ↔ instant.micros = message.time * 1000000 := by
  rw [Message.instant, instantOutcome_eq_ok_iff, if_neg (not_not.mpr none), Instant.ofSeconds,
    Instant.ofMicros_eq_ok_iff]

theorem instant_eq_ok_iff_of_nanoseconds (some : message.timeNano ≠ 0) :
    message.instant = .ok instant ↔ Instant.ofNanoseconds message.timeNano = .ok instant := by
  rw [Message.instant, instantOutcome_eq_ok_iff, if_pos some]

/-! ## Nanoseconds -/

/-- The date of a message with nanoseconds is reckoned from these by roundings half to even, and such
    messages are dated in the order of their nanoseconds.  A message with less than `2 ^ 32` seconds of
    nanoseconds has a date, less than a microsecond away from them, and on whole seconds it is that of
    a message with the seconds alone. -/
theorem nanoseconds_keep_order_and_microsecond :
    (∀ message : Message, message.timeNano ≠ 0 → ∀ instant, message.instant = .ok instant →
      Reckoned message.timeNano instant.micros) ∧
    (∀ earlier later : Message, earlier.timeNano ≠ 0 → later.timeNano ≠ 0 →
      earlier.timeNano ≤ later.timeNano → ∀ first last, earlier.instant = .ok first →
        later.instant = .ok last → first.micros ≤ last.micros) ∧
    (∀ message : Message, 0 < message.timeNano → message.timeNano < 2 ^ 32 * 10 ^ 9 →
      ∃ instant, message.instant = .ok instant ∧
        |(instant.micros : ℚ) - message.timeNano / 10 ^ 3| < 1 ∧
        ∀ alone : Message, alone.timeNano = 0 → message.timeNano = alone.time * 10 ^ 9 →
          alone.instant = .ok instant) := by
  have reckoned (message : Message) (given : message.timeNano ≠ 0) (instant : Instant)
      (dated : message.instant = .ok instant) : Reckoned message.timeNano instant.micros :=
    Instant.reckoned_of_ofNanoseconds ((instant_eq_ok_iff_of_nanoseconds given).mp dated)
  refine ⟨reckoned, ?_, ?_⟩
  · intro earlier later given given' le first last dated dated'
    exact (reckoned earlier given first dated).mono (reckoned later given' last dated') le
  · intro message positive small
    obtain ⟨instant, found⟩ := Instant.exists_ofNanoseconds positive.le small.le
    have near := (Instant.reckoned_of_ofNanoseconds found).near positive.le small.le
    refine ⟨instant, (instant_eq_ok_iff_of_nanoseconds positive.ne').mpr found, near, ?_⟩
    intro alone none whole
    rw [instant_eq_ok_iff_of_seconds none]
    -- Both are whole numbers of microseconds, and less than one apart.
    have value : (message.timeNano : ℚ) / 10 ^ 3 = (alone.time * 1000000 : ℤ) := by
      rw [whole]
      push_cast
      ring
    rw [value, ← Int.cast_sub, ← Int.cast_abs] at near
    have close : |instant.micros - alone.time * 1000000| < 1 := by exact_mod_cast near
    have same := Int.abs_lt_one_iff.mp close
    omega

/-- A message of a start, with a number of nanoseconds or seconds. -/
def exampleOf (timeNano time : Int) : Message where
  objectType := .text "container"
  status := .text "start"
  actorId := .text "c1"
  attributes := [(.text "name", .text "web")]
  image := .text ""
  time := time
  timeNano := timeNano

/-- Two neighbouring nanoseconds of 2023, the later of which is a whole second, and which no number
    of the format tells apart. -/
theorem nanoseconds_keep_order_of_example :
    ∃ first last, (exampleOf 1699999999999999999 0).instant = .ok first ∧
      (exampleOf 1700000000000000000 0).instant = .ok last ∧ first.micros ≤ last.micros ∧
      |(first.micros : ℚ) - 1699999999999999999 / 10 ^ 3| < 1 ∧
      (exampleOf 0 1700000000).instant = .ok last := by
  obtain ⟨-, order, close⟩ := nanoseconds_keep_order_and_microsecond
  obtain ⟨first, dated, near, -⟩ := close (exampleOf 1699999999999999999 0) (by decide) (by decide)
  obtain ⟨last, dated', -, whole⟩ := close (exampleOf 1700000000000000000 0) (by decide) (by decide)
  refine ⟨first, last, dated, dated', ?_, ?_, whole (exampleOf 0 1700000000) rfl (by decide)⟩
  · exact order _ _ (by decide) (by decide) (by decide) first last dated dated'
  · simpa [exampleOf] using near

end Message

/-! ## Seconds -/

/-- The seconds of the years 1 to 9999. -/
def InYears (seconds : Int) : Prop := -62135596800 ≤ seconds ∧ seconds ≤ 253402300799

/-- What is dated at a number of seconds, and what is told of it: a running container by its creation,
    and a message without nanoseconds by its time. -/
inductive DatedAt (filter : NameFilter) (seconds : Int) :
    Except Fault Instant → Report (Option Notice) → Prop
  | creation (container : Container) : container.created = seconds →
      DatedAt filter seconds container.instant (Sighting.noticeOfContainer filter container)
  | event (message : Message) : message.timeNano = 0 → message.time = seconds →
      DatedAt filter seconds message.instant (Sighting.noticeOfMessage filter message)

/-- A text that writes a moment of the calendar in whole seconds and nothing else, and is read back as
    a number of seconds. -/
structure WritesSecond (text : String) (seconds : Int) : Prop where
  existing : (Moment.ofText text).Exists
  plain : text = (Moment.ofText text).text
  back : (Moment.ofText text).seconds = seconds

namespace DatedAt

variable {filter : NameFilter} {seconds : Int} {dated : Except Fault Instant}
  {told : Report (Option Notice)}

theorem eq_ok_iff (source : DatedAt filter seconds dated told) :
    dated = .ok instant ↔ instant.micros = seconds * 1000000 := by
  cases source with
  | creation container created => rw [Container.instant_eq_ok_iff, created]
  | event message none time => rw [Message.instant_eq_ok_iff_of_seconds none, time]

/-- There is an instant exactly in the years 1 to 9999. -/
theorem exists_iff (source : DatedAt filter seconds dated told) :
    (∃ instant, dated = .ok instant) ↔ InYears seconds := by
  constructor
  · rintro ⟨instant, found⟩
    have first := instant.first_le
    have last := instant.le_last
    rw [source.eq_ok_iff] at found
    unfold InYears
    omega
  · rintro ⟨first, last⟩
    exact ⟨⟨seconds * 1000000, by omega, by omega⟩, source.eq_ok_iff.mpr rfl⟩

/-- A notice that is told of it has this instant. -/
theorem dated_of_told {notice : Notice} (source : DatedAt filter seconds dated told)
    (tells : told.outcome = .ok (some notice)) : dated = .ok notice.instant := by
  cases source with
  | creation container created =>
      obtain ⟨instant, found, seen⟩ :=
        (Sighting.noticeOfContainer_eq_ok_iff filter container _).mp tells
      cases seen
      exact found
  | event message none time =>
      cases (Sighting.noticeOfMessage_eq_ok_iff filter message _).mp tells with
      | transition about changed found seen =>
          cases seen
          exact found

end DatedAt

theorem writesSecond_iso {seconds : Int} (whole : instant.micros = seconds * 1000000) :
    WritesSecond instant.iso seconds := by
  have text := Moment.iso_of_whole (show instant.micros % 1000000 = 0 by omega)
  have existing := Moment.exists_ofInstant instant
  have back := Moment.ofText_text existing
  rw [text]
  refine ⟨by rw [back]; exact existing, by rw [back], ?_⟩
  rw [back, Moment.seconds_ofInstant]
  omega

/-- What is dated in whole seconds has a date exactly in the years 1 to 9999.  Its text, which is that
    of every notice that is told of it, writes the moment of the calendar that these seconds are, and
    later seconds have a greater text.  Outside those years it ends in a fault, and no notice is
    told. -/
theorem seconds_are_told_as_moments {filter : NameFilter} {seconds : Int}
    {dated : Except Fault Instant} {told : Report (Option Notice)}
    (source : DatedAt filter seconds dated told) :
    ((∃ instant, dated = .ok instant) ↔ InYears seconds) ∧
    (∀ instant, dated = .ok instant →
      WritesSecond instant.iso seconds ∧
      (∀ notice, told.outcome = .ok (some notice) →
        notice.fields.lookup "ts" = some (.text instant.iso)) ∧
      ∀ filter' seconds' dated' told', DatedAt filter' seconds' dated' told' → seconds < seconds' →
        ∀ instant', dated' = .ok instant' → instant.iso < instant'.iso) ∧
    (¬ InYears seconds → (∃ fault, dated = .error fault) ∧
      ∀ notice, told.outcome ≠ .ok (some notice)) := by
  refine ⟨source.exists_iff, ?_, ?_⟩
  · intro instant found
    have whole := source.eq_ok_iff.mp found
    have writes := writesSecond_iso whole
    refine ⟨writes, ?_, ?_⟩
    · intro notice tells
      have same := source.dated_of_told tells
      rw [found] at same
      cases same
      rfl
    · intro filter' seconds' dated' told' source' less instant' found'
      have writes' := writesSecond_iso (source'.eq_ok_iff.mp found')
      rw [writes.plain, writes'.plain]
      apply Moment.text_lt_of_seconds_lt writes.existing writes'.existing
      rw [writes.back, writes'.back]
      exact less
  · intro outside
    have nothing : ¬ ∃ instant, dated = .ok instant := fun found =>
      outside (source.exists_iff.mp found)
    constructor
    · cases dated with
      | error fault => exact ⟨fault, rfl⟩
      | ok instant => exact absurd ⟨instant, rfl⟩ nothing
    · intro notice tells
      exact nothing ⟨_, source.dated_of_told tells⟩

/-- The last second of a leap day, and the second behind it. -/
theorem seconds_are_told_as_moments_of_example :
    ∃ last first, (Message.exampleOf 0 951868799).instant = .ok last ∧
      (Message.exampleOf 0 951868800).instant = .ok first ∧
      WritesSecond last.iso 951868799 ∧ last.iso = "2000-02-29T23:59:59+00:00" ∧
      first.iso = "2000-03-01T00:00:00+00:00" ∧ last.iso < first.iso := by
  have source : DatedAt ⟨[], [], none, none⟩ 951868799 _ _ :=
    .event (Message.exampleOf 0 951868799) rfl rfl
  have source' : DatedAt ⟨[], [], none, none⟩ 951868800 _ _ :=
    .event (Message.exampleOf 0 951868800) rfl rfl
  obtain ⟨-, told, -⟩ := seconds_are_told_as_moments source
  have dated : (Message.exampleOf 0 951868799).instant
      = .ok ⟨951868799000000, by decide, by decide⟩ := rfl
  have dated' : (Message.exampleOf 0 951868800).instant
      = .ok ⟨951868800000000, by decide, by decide⟩ := rfl
  obtain ⟨writes, -, later⟩ := told _ dated
  refine ⟨_, _, dated, dated', writes, by decide +kernel, by decide +kernel, ?_⟩
  exact later _ _ _ _ source' (by decide) _ dated'

end ContainerWatch.Engine
