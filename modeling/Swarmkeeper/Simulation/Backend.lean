import Swarmkeeper.Engine.Preparation
import Swarmkeeper.Simulation.ScriptedService

/-!
What makes the sessions of simulated engines: a constructor that follows a script, before which a handle
of a service may have to be acquired. Sessions exchange no data; they count the peers they admit.
-/

namespace Swarmkeeper.Simulation

open Swarmkeeper.Engine Swarmkeeper.Service

/-- The service behind an engine. -/
structure Link where
  label : String
  retry : RetryPolicy
  service : ScriptedService Nat

/-- What makes the sessions of an engine. -/
structure Backend where
  /-- What the calls of the constructor come to. -/
  construct : Script (Except Engine.Fault Unit)
  link : Option Link
  /-- The sessions are kept for inspection. -/
  isObserved : Bool
  /-- The loads of the library are counted. -/
  countsLoads : Bool
  /-- The number of constructor calls so far. -/
  constructs : Nat

/-- A constructor that succeeds after a time. -/
def Backend.succeeding (delay : Nat) (countsLoads : Bool) : Backend :=
  ⟨⟨[], ⟨[delay], .answer (.ok ())⟩⟩, none, false, countsLoads, 0⟩

/-- A session. -/
structure Session where
  plan : Plan
  admitted : Nat
  rejected : Nat
  /-- It was closed other than by its cache. -/
  isClosed : Bool
  isObserved : Bool

/-- For whom a session is constructed. -/
inductive Owner where
  /-- The cache of the engine, as its construction of this generation. -/
  | cache (generation : Nat)
  /-- The visitor of this number. -/
  | visitor (index : Nat)
deriving DecidableEq, Repr

/-- How far a construction has come. -/
inductive Effort where
  /-- It asks for a handle of the service. -/
  | asking (request : Request)
  /-- The constructor goes on as this says. -/
  | constructing (cue : Cue (Except Engine.Fault Unit))
  | over

/-- The construction of a session after its preparation. -/
structure Job where
  engine : Nat
  plan : Plan
  owner : Owner
  effort : Effort

/-- The fault of a session that is to be opened over the handle zero. -/
def refusal : Engine.Fault := .construction .remoteService "handle 0 is invalid"

end Swarmkeeper.Simulation
