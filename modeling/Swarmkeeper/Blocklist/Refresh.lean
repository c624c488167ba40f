import Swarmkeeper.Blocklist.Updater

/-!
A refresh from its beginning to its end, and what others can do meanwhile to the policy and to the shared
chain.
-/

namespace Swarmkeeper.Blocklist

open Swarmkeeper.Admission

variable [Pattern.Matcher]

/-- What can happen to an updater besides refreshes. -/
inductive Change where
  | publish (policy : Policy)
  | rebuild
  /-- The chain with this number, which is installed or was once, decides on a peer. -/
  | evaluate (id : Nat) (peer : Peer)
  /-- Somebody else installs a chain. -/
  | replace (chain : Chain)

namespace Updater

/-- What a change makes of an updater. -/
def change (u : Updater) : Change → Updater
  | .publish policy => u.publish policy
  | .rebuild => u.rebuild
  | .evaluate id peer => { u with chain := (u.chain.evaluateAt id peer).2 }
  | .replace chain => { u with chain := u.chain.replace chain }

/-- What these changes make of an updater. -/
def changed (u : Updater) (changes : List Change) : Updater := changes.foldl change u

/-- A refresh that gets this answer for its URL, after these changes. -/
def refresh (u : Updater) (meanwhile : List Change) (body : Body) : Except Web.Fault Nat × Updater :=
  match u.beginRefresh with
  | (some _, u) => (u.changed meanwhile).endRefresh body
  | (none, u) => (.ok 0, u)

end Updater

end Swarmkeeper.Blocklist
