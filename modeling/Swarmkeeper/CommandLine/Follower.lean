import Swarmkeeper.CommandLine.Report
import Swarmkeeper.Service.Feed
import Swarmkeeper.Service.Pursuit

/-!
The service command as it goes on. It waits for its caller, who asks for a handle, and for the feed of the
steps. At a turn it looks at both, in any order, until one of them has something; when it has looked at
both in vain the turn is over. When the caller is done the command tells what is left in the feed, and what
came of it all. Meanwhile the start call of the attempt under way makes its probes, and time passes. A
pause of the caller lasts until the command looks at it again, even if it is of no length.
-/

namespace Swarmkeeper.Service

/-- The number of probes that a start call makes if none is answered. -/
def probeLimit (c : Config.Service) : Nat := max c.probeAttempts.toNat 1

/-- What a start call comes to with one more probe, if it ends with that. -/
def Machine.probe (m : Machine) (c : Config.Service) (made : Nat) : Option (Except Failure Endpoint) :=
  match m.launch c.program c.args with
  | .error f => some (.error f)
  | .ok process =>
      match m.connect c.address with
      | some socket => some (.ok ⟨socket, process⟩)
      | none => if made + 1 < probeLimit c then none else some (.error .noHandle)

end Swarmkeeper.Service

namespace Swarmkeeper.CommandLine

open Swarmkeeper.Service

/-- What the command waits for. -/
inductive Side where
  | caller
  | feed
deriving DecidableEq

/-- How far the command has come. -/
inductive Watch where
  /-- It waits, and has looked at this side already at this turn. -/
  | waiting (looked : Option Side)
  /-- The caller is done, and what is left in the feed is told. -/
  | draining (result : Except Failure Endpoint)
  | ended (report : Report)

/-- The command with its caller and its connection. -/
structure Follower where
  pursuit : Pursuit Endpoint
  /-- The number of probes that the start call under way has made. -/
  probes : Nat
  /-- The number of steps in the feed that it is past. -/
  past : Nat
  lines : List String
  watch : Watch

namespace Follower

/-- The command before its first turn. -/
def start (settings : Config.Service) : Follower :=
  ⟨.start settings.retry .empty 0, 0, 0, [], .waiting none⟩

def connection (f : Follower) : Connection Endpoint := f.pursuit.run.connection

/-- It has looked at a side in vain; the second time the turn is over. -/
def inVain (looked : Option Side) (side : Side) : Watch :=
  .waiting (if looked = none then some side else none)

/-- The caller has a turn. -/
def lookAtCaller (f : Follower) (looked : Option Side) : Follower :=
  let pursuit := f.pursuit.step .turn
  match pursuit.standing with
  | .done result => { f with pursuit, watch := .draining result }
  | _ => { f with pursuit, watch := inVain looked .caller }

/-- Tells the next step, if there is one. -/
def lookAtFeed (f : Follower) (looked : Option Side) : Follower :=
  match Feed.read f.connection.history f.past with
  | (.nothing, _) => { f with watch := inVain looked .feed }
  | (.missed _, past) => { f with past, watch := .waiting none }
  | (.step t, past) =>
      { f with past, lines := f.lines ++ [Report.transition t], watch := .waiting none }

/-- Looks at a side, unless it has at this turn. -/
def look (f : Follower) (side : Side) : Follower :=
  match f.watch with
  | .waiting looked =>
      if looked = some side then f
      else match side with
        | .caller => f.lookAtCaller looked
        | .feed => f.lookAtFeed looked
  | _ => f

/-- What came of it all. -/
def report (f : Follower) : Except Failure Endpoint → Report
  | .error failure => ⟨f.lines, some ⟨"Service is unavailable", some failure.message⟩⟩
  | .ok endpoint =>
      .success (f.lines ++ [s!"Connected to {endpoint.toText} ({f.connection.status.describe})"])

/-- Tells the next step that is left. When there is none, or one was missed, the command is over. -/
def drain (f : Follower) : Follower :=
  match f.watch with
  | .draining result =>
      match Feed.read f.connection.history f.past with
      | (.step t, past) => { f with past, lines := f.lines ++ [Report.transition t] }
      | _ => { f with watch := .ended (f.report result) }
  | _ => f

/-- The start call of the attempt under way begins. -/
def begin (f : Follower) : Follower :=
  if f.pursuit.run.canBegin f.connection.attempt then
    { f with pursuit := f.pursuit.step (.event (.begin f.connection.attempt)), probes := 0 }
  else f

/-- The start call makes a probe, and pauses. -/
def probe (settings : Config.Service) (machine : Machine) (f : Follower) : Follower :=
  if f.pursuit.run.canEnd f.connection.attempt then
    match machine.probe settings f.probes with
    | none => { f with probes := f.probes + 1 }
    | some result =>
        let ended := Event.finish f.connection.attempt (.returned result)
        { f with pursuit := f.pursuit.step (.event ended) }
  else f

/-- What is done for the command. -/
inductive Act where
  | look (side : Side)
  | drain
  | begin
  | probe

/-- What can happen to the command. -/
inductive Happening where
  | act (a : Act)
  /-- So many milliseconds pass. -/
  | tick (amount : Nat)
  /-- The handle of the last attempt is lost. -/
  | lose

/-- What the command does of itself, or its start call. -/
def perform (settings : Config.Service) (machine : Machine) (f : Follower) : Act → Follower
  | .look side => f.look side
  | .drain => f.drain
  | .begin => f.begin
  | .probe => f.probe settings machine

def step (settings : Config.Service) (machine : Machine) (f : Follower) : Happening → Follower
  | .act a => f.perform settings machine a
  | .tick amount => { f with pursuit := f.pursuit.step (.tick amount) }
  | .lose => { f with pursuit := f.pursuit.step (.event (.lose f.connection.attempt)) }

/-- The command after all this. -/
def after (settings : Config.Service) (machine : Machine) (events : List Happening) : Follower :=
  events.foldl (step settings machine) (start settings)

/-- The command after the first of an endless sequence of happenings. -/
def trace (settings : Config.Service) (machine : Machine) (σ : Nat → Happening) : Nat → Follower
  | 0 => start settings
  | n + 1 => (trace settings machine σ n).step settings machine (σ n)

end Follower

end Swarmkeeper.CommandLine
