import Swarmkeeper.Blocklist.Routine
import Swarmkeeper.Simulation.Clock
import Swarmkeeper.Simulation.Script

/-!
An updater, its routine and a caller of it on a clock, where the fetched lists follow a script.
-/

namespace Swarmkeeper.Simulation

open Swarmkeeper.Admission Swarmkeeper.Blocklist

/-- For whom a list is fetched. -/
inductive Reader where
  | caller
  | routine
deriving DecidableEq, Repr

/-- A turn: the routine looks up, or a fetch goes on. -/
inductive BlocklistTask where
  | look
  | resume (reader : Reader) (cue : Cue Body)

variable [Pattern.Matcher]

/-- The routine and what has been fetched. -/
structure BlocklistScene where
  routine : Routine
  /-- The routine has been set going. -/
  isGoing : Bool
  script : Script Body
  /-- The URLs fetched so far, in order. -/
  urls : List String
  /-- What the caller's refresh came to. -/
  answer : Option (Except Web.Fault Nat)

namespace BlocklistScene

/-- A scene and its clock. -/
abbrev Stage := World BlocklistTask BlocklistScene

/-- A scene before anything is done. -/
def ofPolicy (policy : Policy) (script : Script Body) : BlocklistScene :=
  ⟨.ofUpdater (.ofPolicy policy), false, script, [], none⟩

/-- Changes the routine. -/
def onRoutine (w : Stage) (f : Routine → Routine) : Stage :=
  w.modify fun s => { s with routine := f s.routine }

/-- Notes what the caller's refresh came to. -/
def reply (w : Stage) (answer : Except Web.Fault Nat) : Stage :=
  w.modify fun s => { s with answer := some answer }

/-- Lets the routine look up again as soon as what it waits for may have come. -/
def await (w : Stage) : Stage :=
  match w.state.routine.stage with
  | .waiting due => (w.later (due - w.now) .look).soon .look
  | _ => w

/-- A body comes back to the one for whom it was fetched. -/
def arrive (w : Stage) (reader : Reader) (body : Body) : Stage :=
  match reader with
  | .routine => await (onRoutine w (·.answer w.now body))
  | .caller =>
      let (answer, updater) := w.state.routine.updater.endRefresh body
      reply (onRoutine w (·.onUpdater fun _ => updater)) answer

/-- A fetch goes on with what its cue says. The caller has its turn before the other tasks of a
moment. -/
def proceed (w : Stage) (reader : Reader) (cue : Cue Body) : Stage :=
  match cue.next? with
  | some (delay, rest) =>
      match reader with
      | .routine => w.later delay (.resume reader rest)
      | .caller => { w with timers := (w.now + delay, .resume reader rest) :: w.timers }
  | none =>
      match cue.reply with
      | .answer body => arrive w reader body
      | .panic _ | .hang => w

/-- A fetch begins. -/
def fetch (w : Stage) (reader : Reader) (url : String) : Stage :=
  let cue := w.state.script.cue w.state.urls.length
  proceed (w.modify fun s => { s with urls := s.urls ++ [url] }) reader cue

/-- The routine goes on after it has looked up. -/
def goOn (w : Stage) (next : Option String × Routine) : Stage :=
  let w := onRoutine w fun _ => next.2
  match next.1 with
  | some url => fetch w .routine url
  | none => await w

/-- The routine looks up. -/
def look (w : Stage) : Stage :=
  let r := w.state.routine
  if r.stage = .starting then goOn w (r.start w.now)
  else if r.mayEnd then onRoutine w (·.finish)
  else if r.mayFollow then goOn w (r.follow w.now)
  else if r.mayRepeat w.now then goOn w (r.again w.now)
  else w

/-- One turn. -/
def turn (task : BlocklistTask) (w : Stage) : Stage :=
  match task with
  | .look => if w.state.isGoing then look w else w
  | .resume reader cue => proceed w reader cue

/-- What can be done in a scene. -/
inductive Step where
  /-- Refreshes, and waits for the end of it. -/
  | refresh
  | rebuild
  | publish (policy : Policy)
  | run
  | stop
  | advance (amount : Nat)
  | evaluate (peer : Peer)
  | look

/-- What a step answers. -/
inductive Answer where
  | nothing
  | refreshed (result : Except Web.Fault Nat)
  | verdict (v : Verdict)

/-- Refreshes for the caller, and waits for the end of it. -/
def refresh (w : Stage) : Stage :=
  let w := w.modify fun s => { s with answer := none }
  let (url, updater) := w.state.routine.updater.beginRefresh
  let w := onRoutine w (·.onUpdater fun _ => updater)
  match url with
  | none => reply w (.ok 0)
  | some url => (fetch w .caller url).awaitState turn (·.answer.isSome) World.patience

/-- What a step does at once. -/
def act (w : Stage) : Step → Answer × Stage
  | .refresh =>
      let w := refresh w
      ((w.state.answer.map .refreshed).getD .nothing, w)
  | .rebuild => (.nothing, onRoutine w (·.onUpdater (·.rebuild)))
  | .publish policy => (.nothing, (onRoutine w (·.onUpdater (·.publish policy))).soon .look)
  | .run => (.nothing, (w.modify ({ · with isGoing := true })).soon .look)
  | .stop => (.nothing, (onRoutine w ({ · with isStopping := true })).soon .look)
  | .advance amount => (.nothing, w.advance turn amount)
  | .evaluate peer =>
      let (v, updater) := w.state.routine.updater.evaluate peer
      (.verdict v, onRoutine w (·.onUpdater fun _ => updater))
  | .look => (.nothing, w)

/-- A step, after which the tasks run. -/
def perform (w : Stage) (step : Step) : Answer × Stage :=
  let (answer, w) := act w step
  (answer, w.settle turn World.patience)

end BlocklistScene

end Swarmkeeper.Simulation
