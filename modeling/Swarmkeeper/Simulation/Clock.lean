/-!
A clock that moves only when it is told to, and the tasks that run by it. Tasks that are ready have
their turns one after the other; a turn may make further tasks ready, or ready at a later moment. When
no task is ready the clock may move on to the next such moment.
-/

namespace Swarmkeeper.Simulation

/-- The moment, the tasks that are ready in order, the tasks of later moments in the order in which they
were put down, and a state on which tasks work. -/
structure World (τ σ : Type) where
  now : Nat
  ready : List τ
  timers : List (Nat × τ)
  state : σ

namespace World

variable {τ σ : Type}

/-- A world without tasks. -/
def ofState (state : σ) : World τ σ := ⟨0, [], [], state⟩

/-- Makes a task ready. -/
def soon (w : World τ σ) (task : τ) : World τ σ := { w with ready := w.ready ++ [task] }

/-- Makes a task ready after a delay. -/
def later (w : World τ σ) (delay : Nat) (task : τ) : World τ σ :=
  { w with timers := w.timers ++ [(w.now + delay, task)] }

/-- Changes the state. -/
def modify (w : World τ σ) (f : σ → σ) : World τ σ := { w with state := f w.state }

/-- Gives tasks their turns until none is ready, at most as many as the fuel. -/
def settle (turn : τ → World τ σ → World τ σ) : Nat → World τ σ → World τ σ
  | 0, w => w
  | fuel + 1, w =>
      match w.ready with
      | [] => w
      | task :: rest => settle turn fuel (turn task { w with ready := rest })

/-- The next moment of a task that is not ready. -/
def nextMoment? (w : World τ σ) : Option Nat := (w.timers.map (·.1)).min?

/-- Moves the clock to a moment; the tasks of that moment and earlier ones become ready. -/
def moveTo (w : World τ σ) (moment : Nat) : World τ σ :=
  { w with
    now := moment
    ready := w.ready ++ (w.timers.filter (·.1 ≤ moment)).map (·.2)
    timers := w.timers.filter (moment < ·.1) }

/-- The number of turns between two moments after which a run is given up. -/
def patience : Nat := 1000000

/-- Moves the clock from moment to moment up to the goal, giving all tasks their turns on the way. Each
step of the fuel is at least one unit of time. -/
def advanceTo (turn : τ → World τ σ → World τ σ) (goal : Nat) : Nat → World τ σ → World τ σ
  | 0, w => w
  | fuel + 1, w =>
      match w.nextMoment? with
      | some moment =>
          if moment ≤ goal then advanceTo turn goal fuel (settle turn patience (w.moveTo moment))
          else w.moveTo goal
      | none => w.moveTo goal

/-- Lets an amount of time pass. -/
def advance (turn : τ → World τ σ → World τ σ) (amount : Nat) (w : World τ σ) : World τ σ :=
  advanceTo turn (w.now + amount) (amount + 1) w

/-- Lets time pass until the state is as it should be, from moment to moment; gives up when no task is
left or the fuel is spent. -/
def awaitState (turn : τ → World τ σ → World τ σ) (done : σ → Bool) : Nat → World τ σ → World τ σ
  | 0, w => w
  | fuel + 1, w =>
      if done w.state then w
      else match w.nextMoment? with
        | some moment => awaitState turn done fuel (settle turn patience (w.moveTo moment))
        | none => w

end World

end Swarmkeeper.Simulation
