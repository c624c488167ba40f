import Swarmkeeper.Panic

/-!
Scripts for what stands outside the program: what the first call answers, the second, and so on, and how
long each takes.
-/

namespace Swarmkeeper.Simulation

/-- How a call ends. -/
inductive Reply (α : Type) where
  | answer (value : α)
  | panic (panic : Panic)
  /-- The call never ends. -/
  | hang
deriving DecidableEq

/-- The waits of a call, one after the other, and its end. -/
structure Cue (α : Type) where
  delays : List Nat
  reply : Reply α
deriving DecidableEq

/-- A call of which nothing is known does not end. -/
instance {α : Type} : Inhabited (Cue α) := ⟨⟨[], .hang⟩⟩

/-- A cue for each call; the last one is repeated. -/
structure Script (α : Type) where
  cues : List (Cue α)
  /-- What every call answers if there are no cues. -/
  usual : Cue α
deriving DecidableEq

/-- The cue of a call, counted from zero. -/
def Script.cue {α : Type} (s : Script α) (call : Nat) : Cue α :=
  s.cues[min call (s.cues.length - 1)]?.getD s.usual

/-- The first wait of a cue and what follows it; waits of no length are passed over. -/
def Cue.next? {α : Type} (c : Cue α) : Option (Nat × Cue α) :=
  match c.delays.dropWhile (· == 0) with
  | delay :: rest => some (delay, ⟨rest, c.reply⟩)
  | [] => none

end Swarmkeeper.Simulation
