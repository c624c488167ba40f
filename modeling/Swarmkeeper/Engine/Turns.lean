import Swarmkeeper.Engine.Site

/-!
A site on one thread. Whoever has a turn goes on until they have to wait, and closing a session is nothing
to wait for: a cache is shut down, and a session that comes too late is closed, in one turn.
-/

namespace Swarmkeeper.Engine

namespace Registry

/-- What one is given at once who asks the cache of the engine with this number, if that is settled. -/
def getNow? (r : Registry) (i : Nat) : Option (Except Fault Nat) :=
  (r.demand? i).bind fun d => ((r.get i).demand? i).bind (·.result? d.getters.length)

/-- What one is given at once who asks for the session of the engine that is to be used. -/
def sessionNow? (r : Registry) (tree : Files.Tree) (isMetered : Bool) : Option (Except Fault Nat) :=
  match r.select tree isMetered with
  | (some i, r) => r.getNow? i
  | (none, _) => some (.error .noEngine)

end Registry

namespace Site

/-- What can be done in one turn. -/
inductive Turn where
  /-- Something that concerns the engines and not their caches. -/
  | act (a : Act)
  /-- Someone new asks the cache of an engine. -/
  | get (i : Nat)
  /-- Someone new asks for the session of the engine that is to be used. -/
  | session (isMetered : Bool)
  | drop (i getter : Nat)
  | deliver (i getter : Nat)
  | conclude (i generation : Nat) (result : Except Fault Nat)
  /-- A cache notices that its end was announced. -/
  | tearDown (i : Nat)
  /-- One cache is shut down. -/
  | close (i : Nat)
  | cancel
  /-- All caches are shut down. -/
  | shutDown

/-- The site after a turn. -/
def take (s : Site) : Turn → Site
  | .act a => (s.step a).2
  | .get i => s.onAll (·.get i)
  | .session isMetered => s.onAll fun r => (r.session s.host.tree isMetered).2
  | .drop i getter => s.onDemand i (·.drop getter)
  | .deliver i getter => s.onDemand i (·.deliver getter)
  | .conclude i generation result => s.onDemand i (·.conclude generation result)
  | .tearDown i => s.onDemand i (·.tearDown)
  | .close i => s.onDemand i (·.shutDown)
  | .cancel => s.onAll (·.cancel)
  | .shutDown => s.onAll (·.shutDown)

/-- The site after these turns. -/
def afterTurns (s : Site) (turns : List Turn) : Site := turns.foldl take s

end Site

end Swarmkeeper.Engine
