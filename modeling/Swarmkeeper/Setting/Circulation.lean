import Swarmkeeper.Setting.Basic

/-!
A setting in circulation. Its holders clone it among themselves, and every clone leads to the same value.
Readers are subscribed through a clone or cloned from another reader, which has seen the same. A task waits
for a change with a reader that it is lent; nobody else can use the reader until the task has found a change
or was given up. Whatever happens is one event; tasks have their turns between the others.
-/

namespace Swarmkeeper

/-- A task that waits for a change: the reader that it was lent, or none if it was given up, or the value
that it found. -/
inductive Wait (α : Type) where
  | pending (reader : Option Nat)
  | done (value : α)
deriving DecidableEq

namespace Wait

variable {α : Type}

/-- The task waits with this reader. -/
def hasReader (n : Nat) : Wait α → Bool
  | .pending (some m) => m == n
  | _ => false

/-- The task without its reader, if it still waits. -/
def givenUp : Wait α → Wait α
  | .pending _ => .pending none
  | .done x => .done x

end Wait

/-- A setting with its holders, its readers and the tasks that wait for a change, by number. -/
structure Circulation (α : Type) where
  setting : Setting α
  /-- How many clones there are, the first one included. -/
  holders : Nat
  readers : List Receiver
  waits : List (Wait α)
deriving DecidableEq

namespace Circulation

variable {α : Type}

/-- A setting with one holder. -/
def ofValue (value : α) : Circulation α := ⟨.ofValue value, 1, [], []⟩

/-- What can be asked of a setting through a clone. -/
inductive Request (α : Type) where
  | clone
  | sample
  | set (value : α)
  | update (f : α → α)
  | setIfChanged (value : α)
  | subscribe

/-- What can happen to a setting in circulation. -/
inductive Event (α : Type) where
  | ask (holder : Nat) (request : Request α)
  | hasChanged (reader : Nat)
  /-- Looks at the value without having seen it. -/
  | peek (reader : Nat)
  /-- Looks at the value and has seen it. -/
  | read (reader : Nat)
  | clone (reader : Nat)
  /-- Lends the reader to a task, which waits for a change. -/
  | wait (reader : Nat)
  | giveUp (wait : Nat)
  /-- A waiting task looks for a change. -/
  | turn (wait : Nat)

/-- What an event answers. -/
inductive Answer (α : Type) where
  | nothing
  | value (x : α)
  | flag (b : Bool)
  | number (n : Nat)

/-- The reader, if it is there and not lent to a task. -/
def free? (c : Circulation α) (n : Nat) : Option Receiver :=
  if c.waits.any (·.hasReader n) then none else c.readers[n]?

/-- The reader has seen the current value. -/
def mark (c : Circulation α) (n : Nat) : Circulation α :=
  { c with readers := c.readers.set n (.ofSetting c.setting) }

/-- What a clone answers, and what becomes of the setting. -/
def ask [BEq α] (c : Circulation α) : Request α → Answer α × Circulation α
  | .clone => (.number c.holders, { c with holders := c.holders + 1 })
  | .sample => (.value c.setting.value, c)
  | .set x => (.nothing, { c with setting := c.setting.set x })
  | .update f => (.nothing, { c with setting := c.setting.update f })
  | .setIfChanged x =>
      let (changed, setting) := c.setting.setIfChanged x
      (.flag changed, { c with setting })
  | .subscribe =>
      (.number c.readers.length, { c with readers := c.readers ++ [.ofSetting c.setting] })

/-- What is done with a reader; nothing if it is not at hand. -/
def use (c : Circulation α) (n : Nat) (f : Receiver → Answer α × Circulation α) :
    Answer α × Circulation α :=
  match c.free? n with
  | some r => f r
  | none => (.nothing, c)

/-- A task that finds a change takes the value, which its reader has then seen. -/
def turn (c : Circulation α) (k : Nat) : Circulation α :=
  match c.waits[k]? with
  | some (.pending (some n)) =>
      if (c.readers[n]?).any (·.isBehind c.setting) then
        { c.mark n with waits := c.waits.set k (.done c.setting.value) }
      else c
  | _ => c

/-- What an event answers, and the circulation after it. -/
def step [BEq α] (c : Circulation α) : Event α → Answer α × Circulation α
  | .ask h request => if h < c.holders then c.ask request else (.nothing, c)
  | .hasChanged n => c.use n fun r => (.flag (r.isBehind c.setting), c)
  | .peek n => c.use n fun _ => (.value c.setting.value, c)
  | .read n => c.use n fun _ => (.value c.setting.value, c.mark n)
  | .clone n => c.use n fun r => (.number c.readers.length, { c with readers := c.readers ++ [r] })
  | .wait n => c.use n fun _ =>
      (.number c.waits.length, { c with waits := c.waits ++ [.pending (some n)] })
  | .giveUp k => (.nothing, { c with waits := c.waits.modify k Wait.givenUp })
  | .turn k => (.nothing, c.turn k)

/-- The circulation after these events. -/
def run [BEq α] (c : Circulation α) (events : List (Event α)) : Circulation α :=
  events.foldl (fun c e => (c.step e).2) c

/-- A turn for every task. -/
def settling (c : Circulation α) : List (Event α) := (List.range c.waits.length).map .turn

end Circulation

end Swarmkeeper
