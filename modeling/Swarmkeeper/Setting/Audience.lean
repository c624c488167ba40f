import Swarmkeeper.Setting.Circulation

/-!
A setting in circulation as a caller with one thread drives it: every action is done through the first
clone, tasks wait with clones of readers, and after each action every task has a turn. Readers are numbered
in the order in which they subscribed.
-/

namespace Swarmkeeper

/-- A setting in circulation and the readers that subscribed. -/
structure Audience (α : Type) extends Circulation α where
  /-- By their numbers among all readers. -/
  subscribed : List Nat
deriving DecidableEq

namespace Audience

open Circulation (Event)

variable {α : Type}

/-- A setting without readers. -/
def ofValue (value : α) : Audience α := { Circulation.ofValue value with subscribed := [] }

/-- What can be done with a setting. -/
inductive Action (α : Type) where
  | sample
  | set (value : α)
  | update (f : α → α)
  | setIfChanged (value : α)
  | subscribe
  | hasChanged (reader : Nat)
  | peek (reader : Nat)
  | read (reader : Nat)
  /-- A task begins to wait with a clone of the reader. -/
  | wait (reader : Nat)

/-- What an action answers. -/
abbrev Answer (α : Type) := Circulation.Answer α

/-- The number of a subscribed reader among all readers; of one that never subscribed, a free number. -/
def place (a : Audience α) (n : Nat) : Nat := a.subscribed[n]?.getD a.readers.length

/-- The events that make up an action; the last one gives the answer. -/
def events (a : Audience α) : Action α → List (Event α) × Event α
  | .sample => ([], .ask 0 .sample)
  | .set x => ([], .ask 0 (.set x))
  | .update f => ([], .ask 0 (.update f))
  | .setIfChanged x => ([], .ask 0 (.setIfChanged x))
  | .subscribe => ([], .ask 0 .subscribe)
  | .hasChanged n => ([], .hasChanged (a.place n))
  | .peek n => ([], .peek (a.place n))
  | .read n => ([], .read (a.place n))
  | .wait n => ([.clone (a.place n)], .wait a.readers.length)

/-- The audience after the action and a turn for every task, and the answer. -/
def step [BEq α] (a : Audience α) (action : Action α) : Answer α × Audience α :=
  let (before, last) := a.events action
  let (answer, c) := (a.run before).step last
  let settled := c.run c.settling
  match action with
  | .subscribe =>
      (.number a.subscribed.length, { settled with subscribed := a.subscribed ++ [a.readers.length] })
  | _ => (answer, { settled with subscribed := a.subscribed })

end Audience

end Swarmkeeper
