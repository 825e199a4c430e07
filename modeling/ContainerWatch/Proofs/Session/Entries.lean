import ContainerWatch.Proofs.Watcher.Stopping
import ContainerWatch.Session

/-!
# Whose entries these are

The journal of a session holds what the program itself writes and what the parts write that it uses.
The parts never write under the name of the program, so its own entries can be told from theirs.
-/

namespace ContainerWatch

open Engine Journal

/-- The entries that the program itself has written. -/
def Session.ownEntries (journal : List Entry) : List Entry := journal.filter (·.part == .command)

/-- An entry that the program itself has not written. -/
def Journal.Entry.IsForeign (entry : Entry) : Prop := entry.part ≠ .command

theorem Journal.Entry.isForeign_plain {level : Level} {part : Part} {message : String}
    (other : part ≠ .command) : (Entry.plain level part message).IsForeign := other

namespace Watcher

variable {setup : Setup} {state : State}

theorem writtenBy_foreign : ∀ entry ∈ writtenBy setup state, entry.IsForeign := by
  intro entry member
  unfold writtenBy at member
  cases phase : state.listener with
  | accepted message =>
      simp only [phase] at member
      rcases List.mem_append.mp member with member | member
      · refine Sighting.noticeOfMessage_all ?_ ?_ ?_ setup.filter message entry member
        · intro message
          exact Entry.isForeign_plain (by decide)
        · intro image
          exact Entry.isForeign_plain (by decide)
        · intro name fields
          simp [Entry.IsForeign]
      · obtain ⟨notice, _, rfl⟩ := List.mem_map.mp member
        exact Entry.isForeign_plain (by decide)
  | closingStream ending =>
      simp only [phase] at member
      exact afterClosing_all (fun _ => Entry.isForeign_plain (by decide)) _ entry member
  | finishing ending =>
      cases ending <;> cases stopping : state.stopRequested <;>
        simp only [phase, stopping, List.mem_singleton, List.not_mem_nil] at member <;>
        subst member <;> nofun
  | recording reason cause =>
      simp only [phase, List.mem_singleton] at member
      subst member
      nofun
  | reporting failure =>
      cases callback : setup.callback <;>
        simp only [phase, callback, List.mem_singleton, List.not_mem_nil] at member
      subst member
      nofun
  | _ => simp [phase] at member

/-- No move of a watcher writes under the name of the program. -/
theorem entriesBy_foreign {move : Move} :
    ∀ entry ∈ entriesBy setup state move, entry.IsForeign := by
  intro entry member
  cases move with
  | listen => exact writtenBy_foreign entry member
  | stop call =>
      simp only [entriesBy] at member
      split at member
      · exact afterClosing_all (fun _ => Entry.isForeign_plain (by decide)) _ entry member
      · cases member
  | callStop =>
      simp only [entriesBy, List.mem_singleton] at member
      subst member
      exact Entry.isForeign_plain (by decide)
  | _ => cases member

/-! ## Opening a watcher -/

theorem noticesOf_foreign (filter : NameFilter) (containers : List Container) :
    (noticesOf filter containers).All Entry.IsForeign := by
  induction containers with
  | nil => exact nofun
  | cons container containers ih =>
      have told : (Sighting.noticeOfContainer filter container).All Entry.IsForeign := by
        refine .bind nofun fun sighting _ => ?_
        exact Sighting.notice?_all (fun _ => nofun) (fun _ _ => nofun) filter sighting
      refine .bind told fun notice _ => ?_
      cases notice with
      | none => exact ih
      | some notice =>
          exact .bind (Report.all_note nofun) fun _ _ => .bind ih fun _ _ => nofun

theorem channelFor_foreign (size : Int) (snapshot : List Notice) :
    (channelFor size snapshot).All Entry.IsForeign := by
  simp only [channelFor]
  split
  · exact .bind (Report.all_note nofun) fun _ _ => nofun
  · exact nofun

theorem fill_foreign (options : Options) (client : Client) (filter : NameFilter) :
    (fill options client filter).report.All Entry.IsForeign := by
  have listed : (snapshot filter client).report.All Entry.IsForeign := by
    refine .bind nofun fun containers _ => ?_
    exact .bind (Report.all_note nofun) fun _ _ => noticesOf_foreign filter containers
  refine .bind listed fun notices _ => ?_
  refine .bind (channelFor_foreign options.bufferSize notices) fun capacity _ => ?_
  exact .bind nofun fun state _ => .bind (Report.all_note nofun) fun _ _ => nofun

/-- Nothing is written under the name of the program while a watcher is opened. -/
theorem openWith_foreign (options : Options) (client : Client) :
    (openWith options client).report.All Entry.IsForeign := by
  have prepared : (prepare options).All Entry.IsForeign := by
    refine .bind (Report.all_note nofun) fun _ _ => ?_
    split <;> exact nofun
  refine .bind prepared fun filter _ => ?_
  exact .bind (fill_foreign options client filter) fun watch _ => .bind nofun fun _ _ => nofun

end Watcher

theorem Engine.Client.close_foreign (client : Client) : client.close.All Entry.IsForeign := by
  unfold Client.close
  split
  · exact nofun
  · split
    · exact Report.all_note nofun
    · exact nofun

namespace Session

variable {journal entries : List Entry}

theorem ownEntries_append (journal entries : List Entry) :
    ownEntries (journal ++ entries) = ownEntries journal ++ ownEntries entries :=
  List.filter_append ..

theorem ownEntries_of_foreign (foreign : ∀ entry ∈ entries, entry.IsForeign) :
    ownEntries (journal ++ entries) = ownEntries journal := by
  have others : ownEntries entries = [] := by
    unfold ownEntries
    rw [List.filter_eq_nil_iff]
    intro entry member
    simpa [Entry.IsForeign] using foreign entry member
  rw [ownEntries_append, others, List.append_nil]

end Session

end ContainerWatch
