import Swarmkeeper.Service.Feed
import Swarmkeeper.Simulation.Clock
import Swarmkeeper.Simulation.ScriptedService

/-!
Named callers of one service on a clock of their own. After each step all tasks run until each waits for
the clock or for a later step; then the scene is looked at.
-/

namespace Swarmkeeper.Simulation

open Swarmkeeper.Service

/-- What has become of a task. -/
inductive Fate (α : Type) where
  | running
  /-- It is to be dropped at its next turn. -/
  | cancelled
  | dropped
  | done (result : α)
deriving DecidableEq

/-- The task goes on, or would if it had not been told to stop. -/
def Fate.isRunning {α : Type} : Fate α → Bool
  | running => true
  | _ => false

/-- A named caller. -/
structure Guest (η : Type) where
  name : String
  request : Request
  fate : Fate (Except Failure η)

/-- A turn in a scene: of a caller, by number, or of the service. -/
inductive ServiceTask (η : Type) where
  | guest (index : Nat)
  | chore (c : Chore η)

/-- A service and its callers. -/
structure ServiceScene (η : Type) where
  service : ScriptedService η
  guests : List (Guest η)

namespace ServiceScene

variable {η : Type}

/-- A scene and its clock. -/
abbrev Stage (η : Type) := World (ServiceTask η) (ServiceScene η)

/-- The number of the guest who waits as this caller of the service. -/
def guestOf (s : ServiceScene η) (caller : Nat) : Option Nat :=
  s.guests.findIdx? fun g => g.request.stage == .waiting caller

/-- Puts down what a service leaves to be done. -/
def place (w : Stage η) : List (Order η) → Stage η
  | [] => w
  | .chore c :: rest => place (w.soon (.chore c)) rest
  | .choreAfter delay c :: rest => place (w.later delay (.chore c)) rest
  | .wake caller :: rest =>
      match w.state.guestOf caller with
      | some index => place (w.soon (.guest index)) rest
      | none => place w rest

/-- Changes a guest. -/
def setGuest (w : Stage η) (index : Nat) (f : Guest η → Guest η) : Stage η :=
  w.modify fun s => { s with guests := s.guests.modify index f }

/-- Sets the service. -/
def setService (w : Stage η) (service : ScriptedService η) : Stage η :=
  w.modify fun s => { s with service }

/-- One turn. -/
def turn (task : ServiceTask η) (w : Stage η) : Stage η :=
  match task with
  | .chore c =>
      let (service, orders) := w.state.service.doChore c
      place (setService w service) orders
  | .guest index =>
      match w.state.guests[index]? with
      | none => w
      | some g =>
          match g.fate with
          | .cancelled =>
              let (service, orders) := w.state.service.dismiss g.request
              let w := setGuest (setService w service) index ({ · with fate := .dropped })
              place w orders
          | .running =>
              let (service, orders, progress) := w.state.service.serve g.request
              let w := setService w service
              match progress with
              | .done result => place (setGuest w index ({ · with fate := .done result })) orders
              | .wait request => place (setGuest w index ({ · with request })) orders
              | .sleep delay request =>
                  (place (setGuest w index ({ · with request })) orders).later delay (.guest index)
          | _ => w

/-- What can be done in a scene. -/
inductive Step where
  /-- New callers with these names ask for a handle. -/
  | acquire (names : List String) (policy : Option RetryPolicy)
  | cancel (names : List String)
  | advance (amount : Nat)
  | disconnect
  | lose
  | look

/-- The last guest of a name who has not ended. -/
def guestNamed (s : ServiceScene η) (name : String) : Option Nat :=
  ((List.range s.guests.length).filter fun i =>
    match s.guests[i]? with
    | some g => g.name == name && g.fate.isRunning
    | none => false).getLast?

/-- Tells a guest to stop, and whether there was one. -/
def cancelOne (w : Stage η) (name : String) : Bool × Stage η :=
  match w.state.guestNamed name with
  | some index => (true, (setGuest w index ({ · with fate := .cancelled })).soon (.guest index))
  | none => (false, w)

/-- Tells guests to stop. -/
def cancel (w : Stage η) : List String → List Bool × Stage η
  | [] => ([], w)
  | name :: names =>
      let (found, w) := cancelOne w name
      let (rest, w) := cancel w names
      (found :: rest, w)

/-- Lets in a guest. -/
def welcome (policy : Option RetryPolicy) (w : Stage η) (name : String) : Stage η :=
  (w.modify fun s => { s with guests := s.guests ++ [⟨name, .ofPolicy policy, .running⟩] }).soon
    (.guest w.state.guests.length)

/-- What a step does at once; for a cancellation also which callers were there. -/
def act (w : Stage η) : Step → Option (List Bool) × Stage η
  | .acquire names policy => (none, names.foldl (welcome policy) w)
  | .cancel names =>
      let (found, w) := cancel w names
      (some found, w)
  | .disconnect =>
      let (service, orders) := w.state.service.disconnect
      (none, place (setService w service) orders)
  | .lose =>
      let (service, orders) := w.state.service.lose
      (none, place (setService w service) orders)
  | .advance amount => (none, w.advance turn amount)
  | .look => (none, w)

/-- A step, after which the tasks run. -/
def perform (w : Stage η) (step : Step) : Option (List Bool) × Stage η :=
  let (found, w) := act w step
  (found, w.settle turn World.patience)

/-- Steps back to back, after which the tasks run. -/
def burst (w : Stage η) (steps : List Step) : Stage η :=
  (steps.foldl (fun w step => (act w step).2) w).settle turn World.patience

/-! ## What is seen -/

/-- What the feed of a connection has for one who has read the first `seen` steps: how many were forgotten,
and those that were not, oldest first. -/
def recent (history : List Transition) (seen : Nat) : Nat × List Transition := Feed.readAll history seen

/-- What a caller was given, if it has returned, and had not before. -/
def newResult? (before : Option (Guest η)) (after : Guest η) : Option (String × Except Failure η) :=
  match after.fate, before.map Guest.fate with
  | .done r, some .running => some (after.name, r)
  | .done r, none => some (after.name, r)
  | _, _ => none

/-- The callers that have returned since an earlier look, with what they were given. -/
def returned (before after : ServiceScene η) : List (String × Except Failure η) :=
  (List.range after.guests.length).filterMap fun i =>
    (after.guests[i]?).bind (newResult? before.guests[i]?)

/-- The names of the callers that go on, in order. -/
def present (s : ServiceScene η) : List String :=
  ((s.guests.filter (·.fate.isRunning)).map (·.name)).mergeSort

end ServiceScene

end Swarmkeeper.Simulation
