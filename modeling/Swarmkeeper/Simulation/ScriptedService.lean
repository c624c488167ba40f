import Swarmkeeper.Service.Request
import Swarmkeeper.Simulation.Script

/-!
A connection to a service that follows a script. Every operation gives the tasks that it leaves to be
done and the callers that it wakes, in order; whoever runs the simulation gives them their turns.
-/

namespace Swarmkeeper.Simulation

open Swarmkeeper.Service

/-- Whether and how a handle is watched. -/
inductive Watching where
  /-- The handle is never found to be lost. -/
  | never
  /-- The handle is lost when it is said to be. -/
  | untilLost
  /-- The handle is lost after a time. -/
  | lasting (time : Nat)
deriving DecidableEq, Repr

/-- What is left to be done for a service. -/
inductive Chore (η : Type) where
  /-- The start call of an attempt begins. -/
  | start (attempt : Nat)
  /-- The start call of an attempt goes on after a wait. -/
  | resume (attempt : Nat) (cue : Cue (Except Failure η))
  /-- The handle of an attempt is to be watched. -/
  | watch (attempt : Nat)
  /-- The handle of an attempt is found to be lost. -/
  | notice (attempt : Nat)

/-- What happens next: a chore, a chore after a delay, or a caller's turn. -/
inductive Order (η : Type) where
  | chore (c : Chore η)
  | choreAfter (delay : Nat) (c : Chore η)
  | wake (caller : Nat)

/-- A connection whose service follows a script. -/
structure ScriptedService (η : Type) where
  run : Run η
  script : Script (Except Failure η)
  watching : Watching
  /-- The attempts whose handles are watched by now. -/
  watchers : List Nat

namespace ScriptedService

variable {η : Type}

/-- The service before anybody asks for it. -/
def ofScript (script : Script (Except Failure η)) (watching : Watching) : ScriptedService η :=
  ⟨.empty, script, watching, []⟩

/-- What a start call with this cue returns in the end; one that hangs gives no handle. -/
def result (cue : Cue (Except Failure η)) : Except Failure η :=
  match cue.reply with
  | .answer result => result
  | .panic p => (Ending.panicked p).result
  | .hang => .error .noHandle

/-- The callers that an event wakes: those that waited for an attempt that has now ended. -/
def woken (before after : Run η) : List (Order η) :=
  if after.outcomes.length = before.outcomes.length then []
  else match after.outcomes.head? with
    | some (attempt, _) => (after.waiting attempt).map .wake
    | none => []

/-- Goes on with another run: what follows is first the watch over a new handle, then the woken
callers. -/
def adopt (s : ScriptedService η) (run : Run η) : ScriptedService η × List (Order η) :=
  let watch := match run.connection.watched with
    | some attempt =>
        if s.run.connection.watched = some attempt then [] else [.chore (.watch attempt)]
    | none => []
  ({ s with run }, watch ++ woken s.run run)

/-- Applies an event. -/
def apply (s : ScriptedService η) (event : Event η) : ScriptedService η × List (Order η) :=
  s.adopt (s.run.step event)

/-- A start call goes on with what its cue says. -/
def proceed (s : ScriptedService η) (attempt : Nat) (cue : Cue (Except Failure η)) :
    ScriptedService η × List (Order η) :=
  match cue.next? with
  | some (delay, rest) => (s, [.choreAfter delay (.resume attempt rest)])
  | none =>
      match cue.reply with
      | .answer result => s.apply (.finish attempt (.returned result))
      | .panic p => s.apply (.finish attempt (.panicked p))
      | .hang => (s, [])

/-- Does a chore, unless what it is for has been called off. -/
def doChore (s : ScriptedService η) : Chore η → ScriptedService η × List (Order η)
  | .start attempt =>
      if s.run.canBegin attempt then
        let cue := s.script.cue s.run.begun
        let (s, _) := s.apply (.begin attempt)
        s.proceed attempt cue
      else (s, [])
  | .resume attempt cue => if s.run.isCalling attempt then s.proceed attempt cue else (s, [])
  | .watch attempt =>
      if s.run.connection.watched = some attempt then
        match s.watching with
        | .never => (s, [])
        | .untilLost => ({ s with watchers := s.watchers ++ [attempt] }, [])
        | .lasting 0 => s.apply (.lose attempt)
        | .lasting time => (s, [.choreAfter time (.notice attempt)])
      else (s, [])
  | .notice attempt =>
      if s.run.connection.watched = some attempt then s.apply (.lose attempt) else (s, [])

/-- Says that the handle is lost; those who watch by now will notice. -/
def lose (s : ScriptedService η) : ScriptedService η × List (Order η) :=
  ({ s with watchers := [] }, s.watchers.map fun attempt => .chore (.notice attempt))

/-- Says that the service has gone. -/
def disconnect (s : ScriptedService η) : ScriptedService η × List (Order η) := s.apply .disconnect

/-! ## Callers -/

/-- One turn of a caller; one that is to ask again without a delay asks at once. -/
def serve (s : ScriptedService η) (q : Request) :
    ScriptedService η × List (Order η) × Request.Progress η :=
  let first := q.turn s.run
  let (run, progress) := match first.2 with
    | .sleep 0 q => q.turn first.1
    | _ => first
  let started := run.connection.attempt
  let (service, orders) := s.adopt run
  let orders := if s.run.connection.attempt < started then .chore (.start started) :: orders else orders
  (service, orders, progress)

/-- A caller goes away. -/
def dismiss (s : ScriptedService η) (q : Request) : ScriptedService η × List (Order η) :=
  s.adopt (q.drop s.run)

end ScriptedService

end Swarmkeeper.Simulation
