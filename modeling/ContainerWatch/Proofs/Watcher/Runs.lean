import ContainerWatch.Proofs.Watcher.Opening
import Mathlib.Data.List.Induction

/-!
# Runs

A run of a watcher is any sequence of moves of the listener, the engine and the users.  What a run
keeps follows from what a move keeps, by induction on the moves from the last one on.  What a run
shows is collected move by move, so that it can be compared with the state that the run ends in.
-/

namespace ContainerWatch.Watcher

open Engine

variable {setup : Setup} {first last : State} {moves : List Move}

theorem run?_cons {move : Move} :
    run? setup first (move :: moves) = some last ↔
      ∃ next, step? setup first move = some next ∧ run? setup next moves = some last := by
  simp only [run?]
  cases step? setup first move with
  | none => simp
  | some next => simp

theorem run?_snoc {move : Move} :
    run? setup first (moves ++ [move]) = some last ↔
      ∃ middle, run? setup first moves = some middle ∧ step? setup middle move = some last := by
  rw [run?_append]
  cases ran : run? setup first moves with
  | none => simp
  | some middle =>
      simp only [Option.bind_some, run?]
      cases stepped : step? setup middle move with
      | none => simp [stepped]
      | some next => simp [stepped]

/-- What holds of no moves and the first state, and is kept by each move that is possible where the
    run has come to, holds of all moves and the last state. -/
theorem run?_induction {motive : List Move → State → Prop} (start : motive [] first)
    (kept : ∀ before state move next, run? setup first before = some state →
      motive before state → step? setup state move = some next → motive (before ++ [move]) next)
    (ran : run? setup first moves = some last) : motive moves last := by
  induction moves using List.reverseRecOn generalizing last with
  | nil =>
      cases ran
      exact start
  | append_singleton before move ih =>
      obtain ⟨middle, ran, stepped⟩ := run?_snoc.mp ran
      exact kept before middle move last ran (ih ran) stepped

/-- A property of states that every move keeps is kept by every run. -/
theorem run?_invariant {motive : State → Prop}
    (kept : ∀ state move next, motive state → step? setup state move = some next → motive next)
    (start : motive first) (ran : run? setup first moves = some last) : motive last := by
  refine run?_induction (motive := fun _ => motive) start ?_ ran
  intro before state move next _ holds stepped
  exact kept state move next holds stepped

/-- What holds of a listener that has not taken a step, and is kept by every move, holds wherever the
    run of an opened watcher has come to. -/
theorem invariant_of_opened {motive : State → Prop} {options : Options} {client : Client}
    {watch : Watch} (opened : (openWith options client).report.outcome = .ok watch)
    (start : ∀ snapshot capacity, motive (.initial client.stream snapshot capacity))
    (kept : ∀ state move next, motive state → step? watch.setup state move = some next →
      motive next)
    (ran : run? watch.setup watch.state moves = some last) : motive last := by
  obtain ⟨_, snapshot, _, _, _, _, _, fresh⟩ := openWith_eq_ok opened
  rw [fresh] at ran
  exact run?_invariant kept (start snapshot _) ran

/-! ## What a run shows -/

/-- What the moves of a run show, each of them in the state before it. -/
def history {α : Type} (sight : State → Move → List α) (setup : Setup) (state : State) :
    List Move → List α
  | [] => []
  | move :: moves =>
      match step? setup state move with
      | some next => sight state move ++ history sight setup next moves
      | none => []

variable {α : Type} (sight : State → Move → List α)

/-- What a run shows is what its first part shows and then what the rest shows. -/
theorem history_append {middle : State} (before after : List Move)
    (ran : run? setup first before = some middle) :
    history sight setup first (before ++ after)
      = history sight setup first before ++ history sight setup middle after := by
  induction before generalizing first with
  | nil =>
      cases ran
      rfl
  | cons move before ih =>
      simp only [List.cons_append, history, run?] at ran ⊢
      cases stepped : step? setup first move with
      | none => simp [stepped] at ran
      | some next =>
          simp only [stepped] at ran ⊢
          rw [ih ran, List.append_assoc]

/-- A further move shows what it shows where the run has come to. -/
theorem history_snoc {state next : State} {move : Move}
    (ran : run? setup first moves = some state) (stepped : step? setup state move = some next) :
    history sight setup first (moves ++ [move])
      = history sight setup first moves ++ sight state move := by
  rw [history_append sight moves [move] ran]
  simp [history, stepped]

end ContainerWatch.Watcher
