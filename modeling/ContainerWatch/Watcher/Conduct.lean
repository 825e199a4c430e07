import ContainerWatch.Watcher.Step

/-!
# What is done beyond a watcher

A watcher is opened by a computation that asks the engine for its containers and starts a listener.
What is done in this way is recorded in its order, for a fault that comes thereafter does not undo it:
a listener that was started goes on whether or not anybody holds its watcher.
-/

namespace ContainerWatch.Watcher

open Engine Journal

/-- A watcher: what stays the same, and its state. -/
structure Watch where
  setup : Setup
  state : State

/-- The watcher after a move. -/
def Watch.move (watch : Watch) (move : Move) : Watch :=
  { watch with state := step watch.setup move watch.state }

/-- Something that is done beyond the computation that does it. -/
inductive Effect where
  /-- The engine is asked for its running containers. -/
  | list
  /-- The engine is asked for a subscription. -/
  | subscribe
  /-- The listener of a watcher is started. -/
  | start (watch : Watch)

/-- What a computation does, in this order, and what it reports. -/
structure Conduct (α : Type) where
  effects : List Effect
  report : Report α

/-- What there is after some effects: how often the engine was asked for containers and for a
    subscription, and the watcher whose listener was started. -/
structure Scene where
  listings : Nat := 0
  subscriptions : Nat := 0
  watch : Option Watch := none

namespace Scene

/-- The scene after an effect. -/
def after (scene : Scene) : Effect → Scene
  | .list => { scene with listings := scene.listings + 1 }
  | .subscribe => { scene with subscriptions := scene.subscriptions + 1 }
  | .start watch => { scene with watch := some watch }

/-- The scene after a move.  Where no listener was started there is nothing that could move. -/
def move (scene : Scene) (move : Move) : Scene :=
  { scene with watch := scene.watch.map (·.move move) }

def run (scene : Scene) (moves : List Move) : Scene := moves.foldl move scene

/-- How often the engine was asked for a subscription, by the listener or by anybody else. -/
def subscribed (scene : Scene) : Nat :=
  scene.subscriptions + (scene.watch.map (·.state.subscriptions)).getD 0

end Scene

namespace Conduct

variable {α β : Type}

/-- Go on with the value of a computation, behind what it does and writes. -/
def bind (conduct : Conduct α) (next : α → Conduct β) : Conduct β where
  effects := conduct.effects ++
    match conduct.report.outcome with
    | .ok value => (next value).effects
    | .error _ => []
  report := conduct.report >>= fun value => (next value).report

instance : Monad Conduct where
  pure value := ⟨[], pure value⟩
  bind := bind

/-- A computation that does nothing but report. -/
def reporting (report : Report α) : Conduct α := ⟨[], report⟩

def list (client : Client) : Conduct (List Container) := ⟨[.list], .ofOutcome client.list⟩

def start (watch : Watch) : Conduct Unit := ⟨[.start watch], pure ()⟩

def scene (conduct : Conduct α) : Scene := conduct.effects.foldl Scene.after {}

/-- How often a computation asks the engine for its running containers. -/
def listings (conduct : Conduct α) : Nat := conduct.scene.listings

end Conduct

end ContainerWatch.Watcher
