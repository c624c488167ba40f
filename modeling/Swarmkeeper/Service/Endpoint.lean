import Swarmkeeper.Address.Socket
import Swarmkeeper.Config.Service

/-!
A service of its own that listens on a socket: its handle, and what it takes to start it. What programs
and connections come to is up to the machine.
-/

namespace Swarmkeeper.Service

/-- Where a service that was found listens, and its process if it was started for this. -/
structure Endpoint where
  socket : Socket
  process : Option Nat
deriving DecidableEq

/-- An endpoint as text. -/
def Endpoint.toText (e : Endpoint) : String :=
  match e.process with
  | some n => s!"{e.socket.toText} (pid {n})"
  | none => e.socket.toText

/-- A machine: what starting a program with arguments and connecting to an address come to. -/
structure Machine where
  /-- The number of the new process, or why there is none. -/
  spawn : String → List String → Except String Nat
  /-- Where a connection leads, if it is accepted. -/
  connect : String → Option Socket

/-- The process of a program that is to be started, if there is one. -/
def Machine.launch (m : Machine) (program : Option String) (args : List String) :
    Except Failure (Option Nat) :=
  match program with
  | none => .ok none
  | some program =>
      match m.spawn program args with
      | .ok process => .ok (some process)
      | .error reason => .error (.startFailed s!"failed to spawn {program}: {reason}")

/-- Starts the service of a configuration, and looks for it at its address. -/
def Machine.start (m : Machine) (c : Config.Service) : Except Failure Endpoint :=
  match m.launch c.program c.args with
  | .error f => .error f
  | .ok process =>
      match m.connect c.address with
      | some socket => .ok ⟨socket, process⟩
      | none => .error .noHandle

/-- The handle is found to be lost within a time if it is looked at in that time and no connection is
accepted any more. -/
def Machine.isLostWithin (m : Machine) (c : Config.Service) (e : Endpoint) (time : Nat) : Bool :=
  c.healthInterval.toNat ≤ time && (m.connect e.socket.toText).isNone

end Swarmkeeper.Service
