import ContainerWatch.Engine.Visit
import Mathlib.Data.List.Forall2
import Mathlib.Data.List.Induction

/-!
# Iterating over a feed

An iteration over a feed is asked for one message after the other.  Meanwhile the engine puts items on
the stream, and others may close the feed at any time, also between the break of a reading and the
moment at which the iteration handles it.  What it yields is told by the script of the stream alone;
whether a break is a failure is told by whether the feed was closed when the break was handled.
-/

namespace ContainerWatch.Engine

/-- Where an iteration over a feed is. -/
inductive IterationPhase where
  /-- It goes on with the next message that it is asked for. -/
  | going
  /-- Reading broke, and it has not looked whether the feed is closed. -/
  | broken (fault : Fault)
  /-- It has ended. -/
  | ended (ending : Ending)

/-- An iteration over a feed. -/
structure Iteration where
  feed : Feed
  phase : IterationPhase
  yielded : List Message

/-- What happens next to an iteration and its feed. -/
inductive Turn where
  /-- The iteration is asked for a message, and reads the feed. -/
  | next
  /-- The iteration handles the fault in which reading broke. -/
  | handle
  /-- Somebody who closes the feed marks it as closed. -/
  | mark
  /-- Somebody who closes the feed closes its stream. -/
  | closeStream
  /-- The engine puts an item on the stream. -/
  | deliver (item : StreamItem)

namespace Turn

/-- Whether a turn marks the feed as closed. -/
def isMark : Turn → Bool
  | mark => true
  | _ => false

/-- Whether a turn closes the stream. -/
def isCloseStream : Turn → Bool
  | closeStream => true
  | _ => false

/-- The items that a turn puts on the stream. -/
def delivered : Turn → List StreamItem
  | deliver item => [item]
  | _ => []

end Turn

/-- The items that are put on the stream in several turns. -/
def deliveredIn (turns : List Turn) : List StreamItem := turns.flatMap Turn.delivered

theorem deliveredIn_snoc (turns : List Turn) (last : Turn) :
    deliveredIn (turns ++ [last]) = deliveredIn turns ++ last.delivered := by
  simp [deliveredIn]

namespace Iteration

/-- An iteration that was asked for nothing. -/
def ofFeed (feed : Feed) : Iteration := ⟨feed, .going, []⟩

/-- The messages that a step of reading brings. -/
def messagesOf : FeedStep → List Message
  | .message message => [message]
  | _ => []

/-- Where an iteration is that went on with a step of reading. -/
def phaseOf : FeedStep → IterationPhase
  | .message _ | .pending => .going
  | .broken fault => .broken fault
  | .finished => .ended .finished

/-- The iteration once it has read the feed. -/
def resume (iteration : Iteration) : Iteration where
  feed := iteration.feed.read.2
  phase := phaseOf iteration.feed.read.1
  yielded := iteration.yielded ++ messagesOf iteration.feed.read.1

/-- The iteration after a turn.  One that has ended does nothing more, whatever it is asked for. -/
def turn (iteration : Iteration) : Turn → Iteration
  | .next =>
      match iteration.phase with
      | .going => iteration.resume
      | _ => iteration
  | .handle =>
      match iteration.phase with
      | .broken fault =>
          { iteration with phase := .ended (Feed.endingOf iteration.feed.closed fault) }
      | _ => iteration
  | .mark => { iteration with feed := { iteration.feed with closed := true } }
  | .closeStream =>
      { iteration with feed := { iteration.feed with stream := iteration.feed.stream.close } }
  | .deliver item =>
      { iteration with
        feed := { iteration.feed with stream := iteration.feed.stream.deliver item } }

/-- The iteration after several turns. -/
def after (iteration : Iteration) (turns : List Turn) : Iteration := turns.foldl turn iteration

theorem after_append (iteration : Iteration) (first second : List Turn) :
    iteration.after (first ++ second) = (iteration.after first).after second :=
  List.foldl_append ..

theorem after_snoc (iteration : Iteration) (turns : List Turn) (last : Turn) :
    iteration.after (turns ++ [last]) = (iteration.after turns).turn last :=
  List.foldl_concat ..

end Iteration

/-! ## What a stream gives -/

/-- A reading as the list of what was met: nothing if the stream has nothing yet. -/
def Reading.met : Reading → List Reading
  | pending => []
  | reading => [reading]

namespace Stream

/-- What is met behind the items of a stream: the end of a recorded one, and of any other, once it is
    closed, what it still has then. -/
def lateReadings (stream : Stream) : List Reading :=
  if stream.recorded then [.finish]
  else match stream.afterClose with
    | .finish => [.finish]
    | .failure fault => [.failure fault, .finish]
    | .payload value => [.payload value, .finish]

/-- What a read meets, and the stream thereafter. -/
inductive Read (stream : Stream) : Reading → Stream → Prop
  /-- The first item of a stream that is open or recorded. -/
  | item {item : StreamItem} {items : List StreamItem} (holds : stream.items = item :: items)
      (gives : stream.closed = false ∨ stream.recorded = true) :
      Read stream (reading item) { stream with items := items }
  /-- The end of a recorded stream. -/
  | finish (empty : stream.items = []) (recorded : stream.recorded = true) :
      Read stream .finish stream
  /-- Nothing yet. -/
  | pending (empty : stream.items = []) (opened : stream.closed = false)
      (live : stream.recorded = false) : Read stream .pending stream
  /-- What a stream still has once it is closed. -/
  | late {reading : Reading} {rest : List Reading} (closed : stream.closed = true)
      (live : stream.recorded = false) (has : stream.lateReadings = reading :: rest)
      (met : reading.met = [reading]) (goes : reading = .finish ∨ rest = [.finish]) :
      Read stream reading { stream with afterClose := .finish }

theorem read_spec (stream : Stream) : Read stream stream.read.1 stream.read.2 := by
  obtain ⟨items, afterClose, closed, closes, closeFault, recorded⟩ := stream
  cases recorded with
  | true =>
      have plain : Stream.read ⟨items, afterClose, closed, closes, closeFault, true⟩
          = Stream.readItem ⟨items, afterClose, closed, closes, closeFault, true⟩ := by
        cases closed <;> rfl
      rw [plain]
      cases items with
      | nil => exact .finish rfl rfl
      | cons item items => exact .item rfl (.inr rfl)
  | false =>
      cases closed with
      | false =>
          cases items with
          | nil => exact .pending rfl rfl rfl
          | cons item items => exact .item rfl (.inl rfl)
      | true =>
          cases afterClose with
          | finish => exact .late rfl rfl rfl rfl (.inl rfl)
          | failure fault => exact .late rfl rfl rfl rfl (.inr rfl)
          | payload value => exact .late rfl rfl rfl rfl (.inr rfl)

theorem Read.closed_eq {stream later : Stream} {reading : Reading}
    (read : Read stream reading later) : later.closed = stream.closed := by
  cases read <;> rfl

theorem Read.recorded_eq {stream later : Stream} {reading : Reading}
    (read : Read stream reading later) : later.recorded = stream.recorded := by
  cases read <;> rfl

/-- Only a reading that has met nothing brings nothing. -/
theorem eq_pending_of_ofReading {reading : Reading} (pending : Feed.ofReading reading = .pending) :
    reading = .pending := by
  cases reading with
  | pending => rfl
  | payload payload =>
      simp only [Feed.ofReading, Feed.decode] at pending
      split at pending <;> cases pending
  | failure fault | finish => cases pending

/-- Only a live stream that is open and holds nothing keeps its reader waiting. -/
theorem waits_of_pending {stream : Stream}
    (pending : Feed.ofReading stream.read.1 = .pending) :
    stream.items = [] ∧ stream.closed = false ∧ stream.recorded = false := by
  have spec := stream.read_spec
  have unread := eq_pending_of_ofReading pending
  generalize stream.read.1 = reading at spec unread
  generalize stream.read.2 = later at spec
  cases spec with
  | @item item => cases item <;> cases unread
  | finish => cases unread
  | pending empty opened live => exact ⟨empty, opened, live⟩
  | late _ _ _ met =>
      subst unread
      cases met

end Stream

/-! ## Who closes a feed -/

namespace Iteration

theorem turn_closed (iteration : Iteration) (turn : Turn) :
    (iteration.turn turn).feed.closed = (iteration.feed.closed || turn.isMark) := by
  cases turn with
  | next | handle =>
      simp only [Iteration.turn, Turn.isMark, Bool.or_false]
      split <;> rfl
  | mark => exact (Bool.or_true _).symm
  | _ => exact (Bool.or_false _).symm

theorem turn_stream_closed (iteration : Iteration) (turn : Turn) :
    (iteration.turn turn).feed.stream.closed
      = (iteration.feed.stream.closed || turn.isCloseStream) := by
  cases turn with
  | next =>
      simp only [Iteration.turn, Turn.isCloseStream, Bool.or_false]
      split
      · exact (Stream.read_spec _).closed_eq
      · rfl
  | handle =>
      simp only [Iteration.turn, Turn.isCloseStream, Bool.or_false]
      split <;> rfl
  | closeStream => exact (Bool.or_true _).symm
  | _ => exact (Bool.or_false _).symm

/-- A feed that was new is closed exactly if somebody has marked it. -/
theorem after_closed (stream : Stream) (turns : List Turn) :
    ((ofFeed (.ofStream stream)).after turns).feed.closed = turns.any (·.isMark) := by
  induction turns using List.reverseRecOn with
  | nil => rfl
  | append_singleton turns last ih =>
      rw [after_snoc, turn_closed, ih, List.any_append, List.any_cons, List.any_nil, Bool.or_false]

theorem after_stream_closed (stream : Stream) (turns : List Turn) :
    ((ofFeed (.ofStream stream)).after turns).feed.stream.closed
      = (stream.closed || turns.any (·.isCloseStream)) := by
  induction turns using List.reverseRecOn with
  | nil => exact (Bool.or_false _).symm
  | append_singleton turns last ih =>
      rw [after_snoc, turn_stream_closed, ih, List.any_append, List.any_cons, List.any_nil,
        Bool.or_false, Bool.or_assoc]

end Iteration

/-! ## What an iteration makes of its readings -/

/-- A reading tells a message: it is the message's payload. -/
def Tells (reading : Reading) (message : Message) : Prop :=
  ∃ payload, reading = .payload payload ∧ Message.decode payload = .ok message

/-- A reading breaks in a fault: the stream has failed, or the payload is no message. -/
inductive Breaks : Reading → Fault → Prop
  | failure (fault : Fault) : Breaks (.failure fault) fault
  | payload {payload : Value} {error : PayloadError}
      (undecoded : Message.decode payload = .error error) : Breaks (.payload payload) error.fault

/-- How an iteration ends by a fault.  A fault of the engine, of the operating system or of a value's
    range is the end of a feed that is closed and a failure of collecting of one that is not, and any
    other fault stays what it is. -/
inductive EndsAs : Bool → Fault → Ending → Prop
  | closed {fault : Fault} (usual : fault.kind.endsReading = true) : EndsAs true fault .finished
  | failed {fault report : Fault} (usual : fault.kind.endsReading = true)
      (kind : report.kind = .collecting) (cause : report.cause = some fault)
      (text : report.text = "docker event stream failed: " ++ fault.text) :
      EndsAs false fault (.failed report)
  | unusual {closed : Bool} {fault : Fault} (unusual : fault.kind.endsReading = false) :
      EndsAs closed fault (.failed fault)

theorem endsAs_endingOf (closed : Bool) (fault : Fault) :
    EndsAs closed fault (Feed.endingOf closed fault) := by
  unfold Feed.endingOf
  cases usual : fault.kind.endsReading with
  | false => exact .unusual usual
  | true =>
      cases closed with
      | true => exact .closed usual
      | false => exact .failed usual rfl rfl rfl

/-- Somewhere in the turns over a new feed a fault in which reading broke is handled, and the ending is
    as it should be for a feed that somebody has marked as closed before, or nobody has. -/
def HandledAs (stream : Stream) (turns : List Turn) (fault : Fault) (ending : Ending) : Prop :=
  ∃ before after, turns = before ++ .handle :: after ∧
    ((Iteration.ofFeed (.ofStream stream)).after before).phase = .broken fault ∧
    EndsAs (before.any (·.isMark)) fault ending

/-- What an iteration makes of its readings: it yields the messages of payloads, in their order, up to
    the reading that breaks or is the end. -/
def Accounts (stream : Stream) (turns : List Turn) (readings : List Reading)
    (messages : List Message) : IterationPhase → Prop
  | .going => List.Forall₂ Tells readings messages
  | .broken fault => ∃ told last, readings = told ++ [last] ∧ List.Forall₂ Tells told messages ∧
      Breaks last fault
  | .ended ending => ∃ told last, readings = told ++ [last] ∧ List.Forall₂ Tells told messages ∧
      (last = .finish ∧ ending = .finished ∨
        ∃ fault, Breaks last fault ∧ HandledAs stream turns fault ending)

variable {stream : Stream} {turns : List Turn} {readings : List Reading} {messages : List Message}
  {iteration : Iteration} {taken : List StreamItem} {late : List Reading}

theorem HandledAs.snoc {fault : Fault} {ending : Ending} (last : Turn)
    (handled : HandledAs stream turns fault ending) :
    HandledAs stream (turns ++ [last]) fault ending := by
  obtain ⟨before, after, rfl, broken, ends⟩ := handled
  exact ⟨before, after ++ [last], by simp, broken, ends⟩

/-- A turn that is not the iteration's changes nothing in its account. -/
theorem Accounts.snoc {phase : IterationPhase} (last : Turn)
    (accounts : Accounts stream turns readings messages phase) :
    Accounts stream (turns ++ [last]) readings messages phase := by
  cases phase with
  | going => exact accounts
  | broken fault => exact accounts
  | ended ending =>
      obtain ⟨told, reading, split, tells, ends⟩ := accounts
      refine ⟨told, reading, split, tells, ends.imp_right ?_⟩
      rintro ⟨fault, breaks, handled⟩
      exact ⟨fault, breaks, handled.snoc last⟩

/-- An iteration that reads the feed accounts for what it meets. -/
theorem accounts_reading (tells : List.Forall₂ Tells readings messages) (reading : Reading) :
    Accounts stream turns (readings ++ reading.met)
      (messages ++ Iteration.messagesOf (Feed.ofReading reading))
      (Iteration.phaseOf (Feed.ofReading reading)) := by
  have same : messages ++ [] = messages := List.append_nil messages
  cases reading with
  | payload payload =>
      simp only [Feed.ofReading, Feed.decode]
      cases decoded : Message.decode payload with
      | ok message => exact List.rel_append tells (.cons ⟨payload, rfl, decoded⟩ .nil)
      | error error => exact ⟨readings, _, rfl, same.symm ▸ tells, .payload decoded⟩
  | failure fault => exact ⟨readings, _, rfl, same.symm ▸ tells, .failure fault⟩
  | finish => exact ⟨readings, _, rfl, same.symm ▸ tells, .inl ⟨rfl, rfl⟩⟩
  | pending =>
      change List.Forall₂ Tells (readings ++ []) (messages ++ [])
      rwa [same, List.append_nil]

/-- How an iteration over a new feed has come where it is: it has taken items of the script, in their
    order, and then met what is behind them. -/
structure Follows (stream : Stream) (turns : List Turn) (taken : List StreamItem)
    (late : List Reading) (iteration : Iteration) : Prop where
  recorded : iteration.feed.stream.recorded = stream.recorded
  items : taken ++ iteration.feed.stream.items = stream.items ++ deliveredIn turns
  begun : late <+: stream.lateReadings
  behind : late ≠ [] → stream.recorded = true ∨ iteration.feed.stream.closed = true
  accounts : Accounts stream turns (taken.map Stream.reading ++ late) iteration.yielded
    iteration.phase
  /-- What an iteration that goes on may still meet behind the items. -/
  left : iteration.phase = .going → late ++ iteration.feed.stream.lateReadings = stream.lateReadings

theorem follows_ofFeed (stream : Stream) :
    Follows stream [] [] [] (.ofFeed (.ofStream stream)) where
  recorded := rfl
  items := (List.append_nil _).symm
  begun := List.nil_prefix
  behind := nofun
  accounts := .nil
  left _ := rfl

/-- As long as a stream gives its items, nothing behind them was met. -/
theorem Follows.late_eq_nil (follows : Follows stream turns taken late iteration)
    (going : iteration.phase = .going)
    (gives : iteration.feed.stream.closed = false ∨ iteration.feed.stream.recorded = true) :
    late = [] := by
  by_cases recorded : stream.recorded = true
  · have left := follows.left going
    have now := follows.recorded.trans recorded
    simpa [Stream.lateReadings, recorded, now] using left
  · by_contra met
    have closed := (follows.behind met).resolve_left recorded
    rcases gives with opened | now
    · exact absurd (closed.symm.trans opened) nofun
    · exact recorded (follows.recorded.symm.trans now)

/-- An iteration that has read the feed follows the script, if it has taken items of the stream and met
    what is behind them as a stream gives these. -/
theorem Follows.advance (follows : Follows stream turns taken late iteration)
    (items : List StreamItem) (met : List Reading) {later : Stream}
    (feed : iteration.resume.feed.stream = later)
    (recorded : later.recorded = iteration.feed.stream.recorded)
    (holds : iteration.feed.stream.items = items ++ later.items)
    (begun : late ++ met <+: stream.lateReadings)
    (behind : late ++ met ≠ [] → stream.recorded = true ∨ later.closed = true)
    (accounts : Accounts stream (turns ++ [.next])
      ((taken ++ items).map Stream.reading ++ (late ++ met)) iteration.resume.yielded
      iteration.resume.phase)
    (left : iteration.resume.phase = .going →
      late ++ met ++ later.lateReadings = stream.lateReadings) :
    ∃ taken late, Follows stream (turns ++ [.next]) taken late iteration.resume := by
  subst feed
  refine ⟨taken ++ items, late ++ met, recorded.trans follows.recorded, ?_, begun, behind, accounts,
    left⟩
  have delivered : deliveredIn (turns ++ [.next]) = deliveredIn turns := by
    rw [deliveredIn_snoc]
    exact List.append_nil _
  rw [delivered, ← follows.items, holds, List.append_assoc]

theorem follows_resume (follows : Follows stream turns taken late iteration)
    (going : iteration.phase = .going) :
    ∃ taken late, Follows stream (turns ++ [.next]) taken late iteration.resume := by
  have tells := follows.accounts
  rw [going] at tells
  have accounts : Accounts stream (turns ++ [.next]) _ iteration.resume.yielded
      iteration.resume.phase := accounts_reading tells iteration.feed.stream.read.1
  have left := follows.left going
  have unmet := follows.late_eq_nil going
  have spec := iteration.feed.stream.read_spec
  have recorded := spec.recorded_eq
  have phase : iteration.resume.phase
      = Iteration.phaseOf (Feed.ofReading iteration.feed.stream.read.1) := rfl
  have feed : iteration.resume.feed.stream = iteration.feed.stream.read.2 := rfl
  generalize iteration.feed.stream.read = read at *
  obtain ⟨reading, later⟩ := read
  dsimp only at spec accounts phase feed recorded
  cases spec with
  | @item item rest holds gives =>
      obtain rfl := unmet gives
      have met : (Stream.reading item).met = [Stream.reading item] := by cases item <;> rfl
      apply follows.advance [item] [] feed recorded holds
      · exact List.nil_prefix
      · nofun
      · simpa [met] using accounts
      · exact fun _ => left
  | finish empty recordedNow =>
      obtain rfl := unmet (.inr recordedNow)
      apply follows.advance [] [.finish] feed recorded rfl
      · rw [← left]
        simp [Stream.lateReadings, recordedNow]
      · exact fun _ => .inl (follows.recorded.symm.trans recordedNow)
      · simpa [Reading.met] using accounts
      · intro goes
        rw [phase] at goes
        cases goes
  | pending empty opened live =>
      obtain rfl := unmet (.inl opened)
      apply follows.advance [] [] feed recorded rfl
      · exact List.nil_prefix
      · nofun
      · simpa [Reading.met] using accounts
      · exact fun _ => left
  | @late _ rest closed live has met goes =>
      rw [has] at left
      apply follows.advance [] [reading] feed recorded rfl
      · rw [← left]
        exact ⟨rest, by simp⟩
      · exact fun _ => .inr closed
      · simpa [met] using accounts
      · intro still
        rw [phase] at still
        rcases goes with rfl | rfl
        · cases still
        · rw [← left]
          simp [Stream.lateReadings, live]

/-- A turn that neither reads the feed nor handles a fault keeps to the script. -/
theorem Follows.beside (follows : Follows stream turns taken late iteration) {last : Turn}
    (recorded : (iteration.turn last).feed.stream.recorded = iteration.feed.stream.recorded)
    (items : (iteration.turn last).feed.stream.items
      = iteration.feed.stream.items ++ last.delivered)
    (remains : (iteration.turn last).feed.stream.lateReadings = iteration.feed.stream.lateReadings)
    (yielded : (iteration.turn last).yielded = iteration.yielded)
    (phase : (iteration.turn last).phase = iteration.phase) :
    Follows stream (turns ++ [last]) taken late (iteration.turn last) where
  recorded := recorded.trans follows.recorded
  items := by rw [items, deliveredIn_snoc, ← List.append_assoc, follows.items, List.append_assoc]
  begun := follows.begun
  behind met := by
    rw [Iteration.turn_stream_closed, Bool.or_eq_true]
    exact (follows.behind met).imp_right .inl
  accounts := by
    rw [yielded, phase]
    exact follows.accounts.snoc last
  left := by
    rw [phase, remains]
    exact follows.left

/-- An iteration that handles the fault in which reading broke ends as it should. -/
theorem Follows.handle {fault : Fault}
    (follows : Follows stream turns taken late
      ((Iteration.ofFeed (.ofStream stream)).after turns))
    (broken : ((Iteration.ofFeed (.ofStream stream)).after turns).phase = .broken fault) :
    Follows stream (turns ++ [.handle]) taken late
      (((Iteration.ofFeed (.ofStream stream)).after turns).turn .handle) := by
  have handled : ((Iteration.ofFeed (.ofStream stream)).after turns).turn .handle
      = { (Iteration.ofFeed (.ofStream stream)).after turns with
          phase := .ended (Feed.endingOf (turns.any (·.isMark)) fault) } := by
    simp only [Iteration.turn, broken, Iteration.after_closed]
  have accounts := follows.accounts
  rw [broken] at accounts
  obtain ⟨told, reading, split, tells, breaks⟩ := accounts
  rw [handled]
  refine ⟨follows.recorded, ?_, follows.begun, follows.behind, ?_, nofun⟩
  · rw [deliveredIn_snoc, ← List.append_assoc]
    exact follows.items.trans (List.append_nil _).symm
  · refine ⟨told, reading, split, tells, .inr ⟨fault, breaks, turns, [], rfl, broken, ?_⟩⟩
    exact endsAs_endingOf _ fault

/-- Every turn keeps to the script. -/
theorem follows_turn (last : Turn)
    (follows : Follows stream turns taken late
      ((Iteration.ofFeed (.ofStream stream)).after turns)) :
    ∃ taken late, Follows stream (turns ++ [last]) taken late
      (((Iteration.ofFeed (.ofStream stream)).after turns).turn last) := by
  have same : ∀ items : List StreamItem, items = items ++ [] :=
    fun items => (List.append_nil items).symm
  cases last with
  | next =>
      cases phase : ((Iteration.ofFeed (.ofStream stream)).after turns).phase with
      | going =>
          have resumes : ((Iteration.ofFeed (.ofStream stream)).after turns).turn .next
              = ((Iteration.ofFeed (.ofStream stream)).after turns).resume := by
            simp only [Iteration.turn, phase]
          rw [resumes]
          exact follows_resume follows phase
      | broken fault | ended ending =>
          have idle : ((Iteration.ofFeed (.ofStream stream)).after turns).turn .next
              = (Iteration.ofFeed (.ofStream stream)).after turns := by
            simp only [Iteration.turn, phase]
          refine ⟨taken, late, follows.beside ?_ ?_ ?_ ?_ ?_⟩ <;> rw [idle]
          exact same _
  | handle =>
      cases phase : ((Iteration.ofFeed (.ofStream stream)).after turns).phase with
      | broken fault => exact ⟨taken, late, follows.handle phase⟩
      | going | ended ending =>
          have idle : ((Iteration.ofFeed (.ofStream stream)).after turns).turn .handle
              = (Iteration.ofFeed (.ofStream stream)).after turns := by
            simp only [Iteration.turn, phase]
          refine ⟨taken, late, follows.beside ?_ ?_ ?_ ?_ ?_⟩ <;> rw [idle]
          exact same _
  | mark | closeStream =>
      exact ⟨taken, late, follows.beside rfl (same _) rfl rfl rfl⟩
  | deliver item => exact ⟨taken, late, follows.beside rfl rfl rfl rfl rfl⟩

/-- An iteration over a new feed follows the script, whatever happens and in whichever order. -/
theorem follows_after (stream : Stream) (turns : List Turn) :
    ∃ taken late, Follows stream turns taken late
      ((Iteration.ofFeed (.ofStream stream)).after turns) := by
  induction turns using List.reverseRecOn with
  | nil => exact ⟨[], [], follows_ofFeed stream⟩
  | append_singleton turns last ih =>
      obtain ⟨taken, late, follows⟩ := ih
      rw [Iteration.after_snoc]
      exact follows_turn last follows

namespace Iteration

theorem turn_of_ne_going (stopped : iteration.phase ≠ .going) (last : Turn) :
    (iteration.turn last).yielded = iteration.yielded ∧ (iteration.turn last).phase ≠ .going ∧
      ∀ ending, iteration.phase = .ended ending → (iteration.turn last).phase = .ended ending := by
  cases phase : iteration.phase with
  | going => exact absurd phase stopped
  | broken fault =>
      cases last <;> simp [turn, phase]
  | ended ending =>
      cases last <;> simp [turn, phase]

/-- Reading that broke or came to its end brings nothing more, however often it is asked for. -/
theorem after_of_ne_going (stopped : iteration.phase ≠ .going) (turns : List Turn) :
    (iteration.after turns).yielded = iteration.yielded ∧
      (iteration.after turns).phase ≠ .going ∧
      ∀ ending, iteration.phase = .ended ending →
        (iteration.after turns).phase = .ended ending := by
  induction turns using List.reverseRecOn with
  | nil => exact ⟨rfl, stopped, fun _ ended => ended⟩
  | append_singleton turns last ih =>
      obtain ⟨yields, stays, ends⟩ := ih
      obtain ⟨yieldsOn, staysOn, endsOn⟩ := turn_of_ne_going stays last
      rw [after_snoc]
      exact ⟨yieldsOn.trans yields, staysOn, fun ending ended => endsOn ending (ends ending ended)⟩

/-- An iteration that has read the feed without a message and goes on has met nothing. -/
theorem pending_of_idle {step : FeedStep} (silent : messagesOf step = [])
    (goes : phaseOf step = .going) : step = .pending := by
  cases step with
  | pending => rfl
  | message message => cases silent
  | broken fault | finished => cases goes

/-- An iteration that is asked for a message waits only for a live stream that is open and holds
    nothing. -/
theorem waits_only_for_items (going : iteration.phase = .going)
    (stays : (iteration.turn .next).phase = .going)
    (nothing : (iteration.turn .next).yielded = iteration.yielded) :
    iteration.feed.stream.items = [] ∧ iteration.feed.stream.closed = false ∧
      iteration.feed.stream.recorded = false := by
  have resumes : iteration.turn .next = iteration.resume := by simp only [turn, going]
  rw [resumes] at stays nothing
  have silent : messagesOf iteration.feed.read.1 = [] := List.append_right_eq_self.mp nothing
  exact Stream.waits_of_pending (pending_of_idle silent stays)

end Iteration

/-! ## Visits -/

/-- A visit that has asked an iteration over its feed for all its messages so far. -/
structure Visits (visit : Visit) (iteration : Iteration) : Prop where
  feed : visit.feed = some iteration.feed
  /-- The stream of a visit is a recorded one. -/
  recorded : iteration.feed.stream.recorded = true
  reading : visit.reading = true ↔ iteration.phase = .going
  settled : ∀ fault, iteration.phase ≠ .broken fault

/-- What asking an iteration for a message answers: the message, or how the iteration ends thereby,
    and nothing if it has ended before. -/
def nextAnswer (iteration : Iteration) : Journal.Report Answer :=
  match iteration.phase with
  | .going =>
      let later := iteration.after [.next, .handle]
      match later.phase, later.yielded.getLast? with
      | .ended ending, _ => Visit.endingAnswer ending
      | _, some message => pure (.message message)
      | _, none => pure .finished
  | _ => pure .finished

/-- The turns by which a call closes a feed: none if it is closed. -/
def closingTurns (feed : Feed) : List Turn := if feed.closed then [] else [.mark, .closeStream]

theorem visits_subscribed (visit : Visit) (client : Client) :
    Visits (visit.subscribed client)
      (.ofFeed (.ofStream { client.stream with recorded := true })) where
  feed := rfl
  recorded := rfl
  reading := iff_of_true rfl rfl
  settled := nofun

theorem Visits.next {visit : Visit} (visits : Visits visit iteration) :
    (visit.call .next).1 = nextAnswer iteration ∧
      Visits (visit.call .next).2 (iteration.after [.next, .handle]) := by
  obtain ⟨feed, recorded, reading, settled⟩ := visits
  cases phase : iteration.phase with
  | broken fault => exact absurd phase (settled fault)
  | ended ending =>
      have stopped : visit.reading = false := by
        rw [Bool.eq_false_iff, ne_eq, reading, phase]
        nofun
      have idle : iteration.after [.next, .handle] = iteration := by
        simp [Iteration.after, Iteration.turn, phase]
      have answers : visit.call .next = (pure .finished, visit) := by
        simp only [Visit.call, stopped]
      rw [answers, idle]
      refine ⟨?_, feed, recorded, reading, settled⟩
      simp only [nextAnswer, phase]
  | going =>
      have asks : visit.call .next = visit.readNext iteration.feed := by
        simp only [Visit.call, reading.mpr phase, feed]
      have resumes : iteration.after [.next, .handle] = iteration.resume.turn .handle := by
        simp [Iteration.after, Iteration.turn, phase]
      have kept : iteration.feed.read.2.stream.recorded = true :=
        (iteration.feed.stream.read_spec).recorded_eq.trans recorded
      have ready : iteration.feed.read.1 ≠ .pending := by
        intro pending
        have waits := Stream.waits_of_pending pending
        rw [recorded] at waits
        cases waits.2.2
      have going : visit.reading = true := reading.mpr phase
      simp only [nextAnswer, phase, resumes, asks, Visit.readNext, Iteration.resume]
      cases step : iteration.feed.read.1 with
      | pending => exact absurd step ready
      | message message =>
          refine ⟨?_, rfl, kept, iff_of_true going rfl, nofun⟩
          simp [Iteration.phaseOf, Iteration.messagesOf, Iteration.turn]
      | broken fault => exact ⟨rfl, rfl, kept, iff_of_false nofun nofun, nofun⟩
      | finished => exact ⟨rfl, rfl, kept, iff_of_false nofun nofun, nofun⟩

theorem Visits.closeFeed {visit : Visit} (visits : Visits visit iteration) :
    Visits (visit.call .closeFeed).2 (iteration.after (closingTurns iteration.feed)) := by
  obtain ⟨feed, recorded, reading, settled⟩ := visits
  have closes : (visit.call .closeFeed).2
      = { visit with feed := some iteration.feed.close.2 } := by
    simp only [Visit.call, feed]
  rw [closes]
  unfold closingTurns Feed.close
  cases iteration.feed.closed with
  | true => exact ⟨rfl, recorded, reading, settled⟩
  | false => exact ⟨rfl, recorded, reading, settled⟩

end ContainerWatch.Engine
