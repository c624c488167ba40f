import Swarmkeeper.Admission.Filter

/-!
Chains of rules. The first rule that blocks a peer decides; a chain counts the peers it has seen and,
for each rule, those that the rule has blocked. Counting never influences a decision.

A shared chain can be replaced while others hold on to the chain they have taken from it. All chains
that were ever installed stay on record with their counters; the last one is installed.
-/

namespace Swarmkeeper.Admission

/-- The decision on a peer. -/
inductive Verdict where
  | allow
  /-- Blocked by the rule at this position. -/
  | block (filter : Nat)
deriving DecidableEq, Repr

/-- The peer is not admitted. -/
def Verdict.isBlock : Verdict → Bool
  | .allow => false
  | .block _ => true

variable [Pattern.Matcher]

/-- A rule and the number of peers it has blocked. -/
structure Rule where
  filter : Filter
  blocked : Nat
deriving DecidableEq

/-- Rules in order, and the number of peers evaluated. -/
structure Chain where
  rules : List Rule
  evaluated : Nat
deriving DecidableEq

namespace Chain

/-- The chain of these rules before its first peer. -/
def ofFilters (filters : List Filter) : Chain := ⟨filters.map fun f => ⟨f, 0⟩, 0⟩

/-- The chain that admits everyone. -/
def admitAll : Chain := ofFilters []

/-- The rules of a chain. -/
def filters (c : Chain) : List Filter := c.rules.map (·.filter)

/-- The decision on a peer: the position of the first rule that blocks it, if one does. -/
def verdict (c : Chain) (peer : Peer) : Verdict :=
  match c.rules.findIdx? fun r => r.filter.blocks peer with
  | some i => .block i
  | none => .allow

/-- The chain after one more peer with this verdict. -/
def record (c : Chain) (v : Verdict) : Chain where
  evaluated := c.evaluated + 1
  rules := match v with
    | .allow => c.rules
    | .block i => c.rules.modify i fun r => { r with blocked := r.blocked + 1 }

/-- The chain once it has counted one more peer. -/
def count (c : Chain) : Chain := { c with evaluated := c.evaluated + 1 }

/-- The chain once a verdict has been charged to the rule that it names. -/
def charge (c : Chain) (v : Verdict) : Chain where
  evaluated := c.evaluated
  rules := match v with
    | .allow => c.rules
    | .block i => c.rules.modify i fun r => { r with blocked := r.blocked + 1 }

/-- First the peer is counted, then the verdict is charged. -/
theorem record_eq (c : Chain) (v : Verdict) : c.record v = c.count.charge v := rfl

/-- Decides on a peer and counts it. -/
def evaluate (c : Chain) (peer : Peer) : Verdict × Chain :=
  let v := c.verdict peer
  (v, c.record v)

end Chain

/-- The chains that were installed, newest first, and the oldest of all. -/
structure SharedChain where
  newer : List Chain
  oldest : Chain
deriving DecidableEq

namespace SharedChain

/-- A shared chain with this one installed. -/
def ofChain (c : Chain) : SharedChain := ⟨[], c⟩

/-- The chain that is installed. -/
def current (s : SharedChain) : Chain := s.newer.head?.getD s.oldest

/-- The number of the chain that is installed; chains are numbered in order of installation. -/
def currentId (s : SharedChain) : Nat := s.newer.length

/-- The chain with this number. -/
def get? (s : SharedChain) (id : Nat) : Option Chain :=
  (s.oldest :: s.newer.reverse)[id]?

/-- Installs a chain. -/
def replace (s : SharedChain) (c : Chain) : SharedChain := { s with newer := c :: s.newer }

/-- Changes the chain with this number. -/
def modify (s : SharedChain) (id : Nat) (f : Chain → Chain) : SharedChain :=
  if id = 0 then { s with oldest := f s.oldest }
  else { s with newer := s.newer.modify (s.newer.length - id) f }

/-- Decides on a peer with the chain that has this number, and counts it there. -/
def evaluateAt (s : SharedChain) (id : Nat) (peer : Peer) : Verdict × SharedChain :=
  match s.get? id with
  | some c => (c.verdict peer, s.modify id fun c => (c.evaluate peer).2)
  | none => (.allow, s)

/-- Decides on a peer with the chain that is installed, and counts it there. -/
def evaluate (s : SharedChain) (peer : Peer) : Verdict × SharedChain := s.evaluateAt s.currentId peer

end SharedChain

end Swarmkeeper.Admission
