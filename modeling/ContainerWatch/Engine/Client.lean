import ContainerWatch.Engine.Container
import ContainerWatch.Engine.Stream

/-!
# The engine's client

How the client of the engine is used: it is connected, lists the running containers, subscribes to
events and is closed.  Faults of the engine and of the operating system become one kind of fault, so
that callers deal with a single one.
-/

namespace ContainerWatch.Engine

open Journal

/-- How the client of the engine behaves: what it lists, what its stream holds, and the faults in
    which its operations end. -/
structure Client where
  connectFault : Option Fault := none
  containers : List Value := []
  listFault : Option Fault := none
  subscribeFault : Option Fault := none
  closeFault : Option Fault := none
  items : List StreamItem := []
  afterClose : AfterClose := .finish
  streamCloseFault : Option Fault := none

/-- How the client is asked for a connection: at an address, or at the one that the environment
    names. -/
inductive Connection where
  | usual (timeout : Value)
  | direct (address timeout : Value)

namespace Connection

/-- The connection to an address; one that counts as nothing is none. -/
def forAddress (address timeout : Value) : Connection :=
  if address.isTruthy then direct address timeout else usual timeout

end Connection

/-- The timeout of a request where none is given, in seconds. -/
def defaultTimeout : Int := 60

/-- A fault of the engine or of the operating system as a fault of collecting; other faults stay. -/
def converted (what : String) (fault : Fault) : Fault :=
  if fault.kind.isTransport then .collecting what fault else fault

/-- The value of an operation unless it ends in a fault, which is converted. -/
def guarded {α : Type} (what : String) (fault : Option Fault) (value : α) : Except Fault α :=
  match fault with
  | some fault => .error (converted what fault)
  | none => .ok value

namespace Client

/-- Connect.  Only the engine's own faults are converted here. -/
def connect (client : Client) : Except Fault Unit :=
  match client.connectFault with
  | none => .ok ()
  | some fault =>
      .error (if fault.kind.isEngine then .collecting "can't connect to docker" fault else fault)

/-- The containers that entries of a listing describe. -/
def decodeAll : List Value → Except Fault (List Container)
  | [] => .ok []
  | entry :: entries =>
      match Container.decode entry with
      | .error error => .error error.fault
      | .ok container => (decodeAll entries).map (container :: ·)

/-- List the running containers. -/
def list (client : Client) : Except Fault (List Container) := do
  decodeAll (← guarded "can't list containers" client.listFault client.containers)

/-- Subscribe to the event stream. -/
def subscribe (client : Client) : Except Fault Unit :=
  guarded "can't subscribe to docker events" client.subscribeFault ()

/-- The stream to which the client subscribes. -/
def stream (client : Client) : Stream :=
  .fresh client.items client.afterClose client.streamCloseFault

/-- Close the client.  A fault of the engine or of the operating system is noted only. -/
def close (client : Client) : Report Unit :=
  match client.closeFault with
  | none => pure ()
  | some fault =>
      if fault.kind.isTransport then
        .note .debug .engine ("Error closing docker client: " ++ fault.text)
      else
        .fail fault

end Client

end ContainerWatch.Engine
