import Swarmkeeper.Blocklist.Updater

/-!
The routine that refreshes a blocklist: after each refresh it waits until an interval has passed, the
policy has changed or it is told to stop. It does not look up while it waits for an answer. Each look at
the policy is an event of its own, and others may change the policy between any two. Moments are in
milliseconds.
-/

namespace Swarmkeeper.Blocklist

open Swarmkeeper.Admission

variable [Pattern.Matcher]

/-- Where the routine is. -/
inductive Stage where
  /-- It has not had its first turn. -/
  | starting
  /-- It is about to look up the URL of the list. -/
  | looking
  /-- Its refresh waits for an answer. -/
  | fetching
  /-- It is about to make the chain of the policy with what was fetched. -/
  | building
  /-- It is about to install this chain. -/
  | installing (chain : Chain)
  /-- It is about to look up how long to wait. -/
  | resting
  /-- It waits, at most until this moment. -/
  | waiting (due : Nat)
  | ended
deriving DecidableEq

/-- An updater and the routine that works on it. -/
structure Routine where
  updater : Updater
  stage : Stage
  /-- The routine as a reader of the policy. -/
  reader : Receiver
  /-- It has been told to stop. -/
  isStopping : Bool
  /-- The number of refreshes it has begun. -/
  refreshes : Nat
deriving DecidableEq

namespace Routine

/-- A routine before its first turn. -/
def ofUpdater (updater : Updater) : Routine := ⟨updater, .starting, ⟨0⟩, false, 0⟩

/-- The time between two refreshes: what the policy says, but at least a second. -/
def interval (policy : Policy) : Nat := max policy.refresh.timerMillis 1000

/-- Works on the updater. -/
def onUpdater (r : Routine) (f : Updater → Updater) : Routine := { r with updater := f r.updater }

/-- The first turn: from now on the routine reads the policy. -/
def subscribe (r : Routine) : Routine :=
  match r.stage with
  | .starting => { r with reader := .ofSetting r.updater.policy, stage := .looking }
  | _ => r

/-- Begins a refresh; gives the URL that is to be fetched, if there is one. If there is none the fetched
addresses are given up. -/
def look (r : Routine) : Option String × Routine :=
  match r.stage with
  | .looking =>
      let r := { r with refreshes := r.refreshes + 1 }
      match r.updater.policy.value.listUrl with
      | some url => (some url, { r with stage := .fetching })
      | none => (none, { r.onUpdater ({ · with fetched := [] }) with stage := .building })
  | _ => (none, r)

/-- The answer has come. -/
def receive (r : Routine) (body : Body) : Routine :=
  match r.stage with
  | .fetching =>
      match body with
      | .ok bytes => { r.onUpdater ({ · with fetched := addresses bytes }) with stage := .building }
      | .error _ => { r with stage := .resting }
  | _ => r

/-- Makes the chain of the policy with what was fetched. -/
def build (r : Routine) : Routine :=
  match r.stage with
  | .building => { r with stage := .installing (r.updater.policy.value.chain r.updater.fetched) }
  | _ => r

/-- Installs the chain that it has made. -/
def install (r : Routine) : Routine :=
  match r.stage with
  | .installing chain =>
      { r.onUpdater (fun u => { u with chain := u.chain.replace chain }) with stage := .resting }
  | _ => r

/-- Starts to wait. -/
def rest (r : Routine) (now : Nat) : Routine :=
  match r.stage with
  | .resting => { r with stage := .waiting (now + interval r.updater.policy.value) }
  | _ => r

/-- It waits and has been told to stop. -/
def mayEnd (r : Routine) : Bool :=
  match r.stage with
  | .waiting _ => r.isStopping
  | _ => false

/-- It waits and the policy has changed since it last looked. -/
def mayFollow (r : Routine) : Bool :=
  match r.stage with
  | .waiting _ => r.reader.isBehind r.updater.policy
  | _ => false

/-- It waits and its interval has passed. -/
def mayRepeat (r : Routine) (now : Nat) : Bool :=
  match r.stage with
  | .waiting due => due ≤ now
  | _ => false

/-- Ends its wait because it has been told to. -/
def finish (r : Routine) : Routine := if r.mayEnd then { r with stage := .ended } else r

/-- Ends its wait because the policy has changed. -/
def heed (r : Routine) : Routine :=
  if r.mayFollow then { r with reader := .ofSetting r.updater.policy, stage := .looking } else r

/-- Ends its wait because the interval has passed. -/
def wake (r : Routine) (now : Nat) : Routine :=
  if r.mayRepeat now then { r with stage := .looking } else r

/-- The routine has not ended. -/
def isAlive (r : Routine) : Bool := r.stage ≠ .ended

/-- What can happen to a routine. While it waits, each of the three reasons to go on that holds may be
the one it goes on for. -/
inductive Event where
  | publish (policy : Policy)
  /-- Somebody else installs the chain of the policy with what was fetched. -/
  | rebuild
  /-- The chain that is installed decides on a peer. -/
  | evaluate (peer : Peer)
  | stop
  | subscribe
  | look
  | receive (body : Body)
  | build
  | install
  | rest
  | finish
  | heed
  | wake

/-- What an event at a moment makes of a routine. -/
def step (r : Routine) (now : Nat) : Event → Routine
  | .publish policy => r.onUpdater (·.publish policy)
  | .rebuild => r.onUpdater (·.rebuild)
  | .evaluate peer => r.onUpdater fun u => (u.evaluate peer).2
  | .stop => { r with isStopping := true }
  | .subscribe => r.subscribe
  | .look => r.look.2
  | .receive body => r.receive body
  | .build => r.build
  | .install => r.install
  | .rest => r.rest now
  | .finish => r.finish
  | .heed => r.heed
  | .wake => r.wake now

/-- The routine of an updater after these events, each at its moment. -/
def after (u : Updater) (events : List (Nat × Event)) : Routine :=
  events.foldl (fun r (now, e) => r.step now e) (ofUpdater u)

/-! ## What is done without a pause -/

/-- Begins a refresh, and starts to wait unless there is something to fetch. -/
def refresh (r : Routine) (now : Nat) : Option String × Routine :=
  let (url, r) := r.look
  (url, r.build.install.rest now)

/-- The first turn, and the first refresh. -/
def start (r : Routine) (now : Nat) : Option String × Routine := r.subscribe.refresh now

/-- Goes on with the answer, and starts to wait. -/
def answer (r : Routine) (now : Nat) (body : Body) : Routine := (r.receive body).build.install.rest now

/-- Refreshes because the policy has changed. -/
def follow (r : Routine) (now : Nat) : Option String × Routine := r.heed.refresh now

/-- Refreshes because the interval has passed. -/
def again (r : Routine) (now : Nat) : Option String × Routine := (r.wake now).refresh now

end Routine

end Swarmkeeper.Blocklist
