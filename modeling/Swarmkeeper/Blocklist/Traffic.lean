import Swarmkeeper.Blocklist.Routine

/-!
An updater on which several work: its routine, and others who refresh on their own. Each refresh is cut in
two where it waits for the list; what the others do may come in between.
-/

namespace Swarmkeeper.Blocklist

open Swarmkeeper.Admission

/-- A refresh that somebody other than the routine has begun. -/
inductive Call where
  /-- It waits for the list at this URL. -/
  | waiting (url : String)
  | over (result : Except Web.Fault Nat)

variable [Pattern.Matcher]

/-- An updater with its routine, and the refreshes of others by number. -/
structure Traffic where
  routine : Routine
  calls : List Call

namespace Traffic

/-- The updater of a routine before its first turn, on which nobody else works. -/
def ofUpdater (u : Updater) : Traffic := ⟨.ofUpdater u, []⟩

/-- The updater on which all work. -/
def updater (t : Traffic) : Updater := t.routine.updater

/-- Somebody works on the updater. -/
def onUpdater (t : Traffic) (f : Updater → Updater) : Traffic :=
  { t with routine := t.routine.onUpdater f }

/-- Somebody begins a refresh. -/
def call (t : Traffic) : Traffic :=
  match t.updater.beginRefresh with
  | (some url, u) => { t.onUpdater fun _ => u with calls := t.calls ++ [.waiting url] }
  | (none, u) => { t.onUpdater fun _ => u with calls := t.calls ++ [.over (.ok 0)] }

/-- The answer for a refresh has come. -/
def reply (t : Traffic) (n : Nat) (body : Body) : Traffic :=
  match t.calls[n]? with
  | some (.waiting _) =>
      let (result, u) := t.updater.endRefresh body
      { t.onUpdater fun _ => u with calls := t.calls.set n (.over result) }
  | _ => t

/-- What can happen. The routine goes on from one pause to the next without interruption. -/
inductive Event where
  | publish (policy : Policy)
  | rebuild
  | evaluate (peer : Peer)
  | stop
  | call
  | reply (n : Nat) (body : Body)
  | start
  | receive (body : Body)
  | follow
  | again
  | finish

/-- What an event at a moment makes of it all. -/
def step (t : Traffic) (now : Nat) : Event → Traffic
  | .publish policy => t.onUpdater (·.publish policy)
  | .rebuild => t.onUpdater (·.rebuild)
  | .evaluate peer => t.onUpdater fun u => (u.evaluate peer).2
  | .stop => { t with routine := { t.routine with isStopping := true } }
  | .call => t.call
  | .reply n body => t.reply n body
  | .start => { t with routine := (t.routine.start now).2 }
  | .receive body => { t with routine := t.routine.answer now body }
  | .follow => { t with routine := (t.routine.follow now).2 }
  | .again => { t with routine := (t.routine.again now).2 }
  | .finish => { t with routine := t.routine.finish }

/-- What has become of an updater after these events, each at its moment. -/
def after (u : Updater) (events : List (Nat × Event)) : Traffic :=
  events.foldl (fun t (now, e) => t.step now e) (ofUpdater u)

end Traffic

end Swarmkeeper.Blocklist
