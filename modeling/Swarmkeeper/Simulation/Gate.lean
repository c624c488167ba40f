import Swarmkeeper.Admission.Chain
import Swarmkeeper.Simulation.Backend

/-!
A shared chain at which several decide at the same time. Some take the chain that is installed, some one
that they kept, and some are sessions, which count whom they admit. An evaluation is cut wherever others may
come in between: it takes hold of a chain, the chain counts the peer, the rule that blocks the peer is
charged, and the session counts the verdict. Those who ask only whether a peer is blocked look at the verdict.
-/

namespace Swarmkeeper.Simulation

open Swarmkeeper.Admission Swarmkeeper.Engine

/-- How one comes by the chain that is to decide. -/
inductive Access where
  /-- It is the one that is installed. -/
  | shared
  /-- It is the one that was kept under this number. -/
  | kept (n : Nat)
  /-- It is the one that is installed, and this session counts the verdict. -/
  | session (n : Nat)
deriving DecidableEq, Repr

/-- How far an evaluation has come. -/
inductive Progress where
  /-- It has hold of its chain. -/
  | begun
  /-- The chain has counted the peer. -/
  | counted
  /-- The rule that blocks the peer, if one does, has been charged. -/
  | decided (v : Verdict)
  | over (v : Verdict)
deriving DecidableEq, Repr

/-- An evaluation of a peer by the chain that has this number among those that were installed. -/
structure Evaluation where
  access : Access
  peer : Peer
  chain : Nat
  progress : Progress
deriving DecidableEq

/-- A session has met a peer. -/
def Session.note (x : Session) (v : Verdict) : Session :=
  if v.isBlock then { x with rejected := x.rejected + 1 } else { x with admitted := x.admitted + 1 }

/-- The session that asked, if one did, counts the verdict. -/
def Access.note (sessions : List Session) (v : Verdict) : Access → List Session
  | .session i => sessions.modify i (·.note v)
  | .shared | .kept _ => sessions

variable [Pattern.Matcher]

/-- A shared chain, the numbers of the chains that were kept, the sessions that share it, and the
evaluations. -/
structure Gate where
  chain : SharedChain
  kept : List Nat
  sessions : List Session
  evaluations : List Evaluation

namespace Gate

/-- A gate with this chain, to which nobody has come. -/
def ofChain (c : Chain) : Gate := ⟨.ofChain c, [], [], []⟩

/-- The number of the chain that one comes by. -/
def reach? (g : Gate) : Access → Option Nat
  | .shared => some g.chain.currentId
  | .kept n => g.kept[n]?
  | .session n => if n < g.sessions.length then some g.chain.currentId else none

/-- Somebody takes hold of a chain that is to decide on a peer. -/
def begin (g : Gate) (access : Access) (peer : Peer) : Gate :=
  match g.reach? access with
  | some id => { g with evaluations := g.evaluations ++ [⟨access, peer, id, .begun⟩] }
  | none => g

/-- The chain counts the peer. -/
def count (g : Gate) (n : Nat) (e : Evaluation) : Gate :=
  { g with
    chain := g.chain.modify e.chain Chain.count
    evaluations := g.evaluations.set n { e with progress := .counted } }

/-- The chain decides, and charges the rule that blocks the peer. -/
def decide (g : Gate) (n : Nat) (e : Evaluation) : Gate :=
  match g.chain.get? e.chain with
  | some c =>
      { g with
        chain := g.chain.modify e.chain (·.charge (c.verdict e.peer))
        evaluations := g.evaluations.set n { e with progress := .decided (c.verdict e.peer) } }
  | none => g

/-- The verdict is given. -/
def give (g : Gate) (n : Nat) (e : Evaluation) (v : Verdict) : Gate :=
  { g with
    sessions := e.access.note g.sessions v
    evaluations := g.evaluations.set n { e with progress := .over v } }

/-- An evaluation goes on. -/
def advance (g : Gate) (n : Nat) : Gate :=
  match g.evaluations[n]? with
  | none => g
  | some e =>
      match e.progress with
      | .begun => g.count n e
      | .counted => g.decide n e
      | .decided v => g.give n e v
      | .over _ => g

/-- Somebody keeps the chain that is installed. -/
def keep (g : Gate) : Gate := { g with kept := g.kept ++ [g.chain.currentId] }

/-- What can happen at a gate. -/
inductive Event where
  | keep
  /-- Somebody installs a chain, and keeps the one that it replaces. -/
  | replace (chain : Chain)
  /-- A new session. -/
  | join (plan : Plan) (isObserved : Bool)
  | begin (access : Access) (peer : Peer)
  | advance (n : Nat)

/-- What an event makes of a gate. -/
def step (g : Gate) : Event → Gate
  | .keep => g.keep
  | .replace c => { g.keep with chain := g.chain.replace c }
  | .join plan isObserved => { g with sessions := g.sessions ++ [⟨plan, 0, 0, false, isObserved⟩] }
  | .begin access peer => g.begin access peer
  | .advance n => g.advance n

/-- A gate with this chain after these events. -/
def after (c : Chain) (events : List Event) : Gate := events.foldl step (ofChain c)

/-- Somebody has a chain decide on a peer without a pause. -/
def evaluate (g : Gate) (access : Access) (peer : Peer) : Gate :=
  let n := g.evaluations.length
  [.begin access peer, .advance n, .advance n, .advance n].foldl step g

end Gate

end Swarmkeeper.Simulation
