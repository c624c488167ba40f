import Swarmkeeper.Engine.Demand
import Swarmkeeper.Engine.Native

/-!
The engines of a program and their caches. Of several engines of one kind only the first is registered.
Engines on this machine are preferred to remote ones, and of two alike the one that was given first;
a library is loaded only if the choice depends on it.
-/

namespace Swarmkeeper.Engine

/-- An engine and those who ask for its session. -/
structure Member where
  engine : Native
  demand : Demand

/-- The engines that were given, in order. -/
structure Registry where
  members : List Member

namespace Registry

/-- A registry of these engines. -/
def ofEngines (engines : List Native) : Registry := ⟨engines.map fun e => ⟨e, .ofKind e.kind⟩⟩

/-- The engine with this number. -/
def engine? (r : Registry) (i : Nat) : Option Native := r.members[i]?.map (·.engine)

/-- Those who ask for the session of the engine with this number. -/
def demand? (r : Registry) (i : Nat) : Option Demand := r.members[i]?.map (·.demand)

/-- Sets the engine with this number. -/
def setEngine (r : Registry) (i : Nat) (engine : Native) : Registry :=
  ⟨r.members.modify i fun m => { m with engine }⟩

/-- Something happens to the cache of the engine with this number. -/
def onDemand (r : Registry) (i : Nat) (f : Demand → Demand) : Registry :=
  ⟨r.members.modify i fun m => { m with demand := f m.demand }⟩

/-- No earlier engine is of the same kind. -/
def isRegistered (r : Registry) (i : Nat) : Bool :=
  match r.members[i]? with
  | some m => !(r.members.take i).any (·.engine.kind = m.engine.kind)
  | none => false

/-- The numbers of the registered engines. -/
def registered (r : Registry) : List Nat := (List.range r.members.length).filter r.isRegistered

/-- The kinds of the registered engines. -/
def kinds (r : Registry) : List Kind := (r.registered.filterMap r.engine?).map (·.kind)

/-- The number of the registered engine of a kind. -/
def ofKind? (r : Registry) (kind : Kind) : Option Nat :=
  r.registered.find? fun i => (r.engine? i).map (·.kind) == some kind

/-- The engine may be used: it is enabled, and not remote where traffic is paid for. -/
def isAllowed (isMetered : Bool) (e : Native) : Bool :=
  e.settings.value.enabled && !(isMetered && e.location = .remote)

/-- The registered engines of a location. -/
def located (r : Registry) (location : Location) : List Nat :=
  r.registered.filter fun i => (r.engine? i).map (·.location) == some location

/-- The registered engines, the preferred ones first. -/
def candidates (r : Registry) : List Nat := r.located .here ++ r.located .remote

/-- The first of these engines that may and can be used. -/
def firstUsable (tree : Files.Tree) (isMetered : Bool) (r : Registry) :
    List Nat → Option Nat × Registry
  | [] => (none, r)
  | i :: rest =>
      match r.engine? i with
      | none => firstUsable tree isMetered r rest
      | some e =>
          if isAllowed isMetered e then
            let (isSupported, e) := e.testConnection tree
            let r := r.setEngine i e
            if isSupported then (some i, r) else firstUsable tree isMetered r rest
          else firstUsable tree isMetered r rest

/-- The number of the engine that is to be used. -/
def select (r : Registry) (tree : Files.Tree) (isMetered : Bool) : Option Nat × Registry :=
  firstUsable tree isMetered r r.candidates

/-- Someone new asks the cache of the engine with this number. -/
def get (r : Registry) (i : Nat) : Registry :=
  match r.engine? i with
  | some e => r.onDemand i (·.get e.settings.value)
  | none => r

/-- Someone new asks for the session of the engine that is to be used: its number, unless there is
none. -/
def session (r : Registry) (tree : Files.Tree) (isMetered : Bool) : Option Nat × Registry :=
  match r.select tree isMetered with
  | (some i, r) => (some i, r.get i)
  | (none, r) => (none, r)

/-- The session of the engine with this number, if it has been built. -/
def peek (r : Registry) (i : Nat) : Option Nat := (r.demand? i).bind (·.cache.peek)

/-- Something happens to every cache. -/
def onAll (r : Registry) (f : Demand → Demand) : Registry :=
  ⟨r.members.map fun m => { m with demand := f m.demand }⟩

/-- Announces the end of all caches. -/
def cancel (r : Registry) : Registry := r.onAll (·.step .cancel)

/-- Announces the end of all caches and closes them. -/
def shutDown (r : Registry) : Registry := r.cancel.onAll (·.shutDown)

/-- A cache has closed this session. -/
def hasClosed (r : Registry) (session : Nat) : Bool :=
  r.members.any (·.demand.cache.closings.contains session)

end Registry

end Swarmkeeper.Engine
