import Swarmkeeper.Service.Backoff
import Swarmkeeper.Service.Run

/-!
A caller among others that asks for a handle, and asks again as its policy says. At each of its turns it
asks, or looks for what it was given.
-/

namespace Swarmkeeper.Service

variable {η : Type}

/-- Where a caller is that asks for a handle, maybe again and again. -/
inductive Stage where
  /-- It will ask at its next turn. -/
  | asking
  /-- It waits as the caller of this number. -/
  | waiting (caller : Nat)
deriving DecidableEq, Repr

/-- A caller with its policy; without one it asks once. -/
structure Request where
  policy : Option RetryPolicy
  /-- The number of times it has asked. -/
  asked : Nat
  stage : Stage
deriving DecidableEq, Repr

namespace Request

/-- What a turn of a caller comes to. -/
inductive Progress (η : Type) where
  | wait (request : Request)
  | sleep (delay : Nat) (request : Request)
  | done (result : Except Failure η)

/-- A caller before its first turn. -/
def ofPolicy (policy : Option RetryPolicy) : Request := ⟨policy, 0, .asking⟩

/-- What a caller does with what it was given. -/
def react (q : Request) (result : Except Failure η) : Progress η :=
  match q.policy with
  | none => .done result
  | some p =>
      match p.respond q.asked result with
      | .finish result => .done result
      | .again delay => .sleep delay { q with stage := .asking }

/-- Looks for what it was given as the caller of this number. -/
def look (q : Request) (r : Run η) (caller : Nat) : Progress η :=
  match r.result? caller with
  | some result => q.react result
  | none => .wait { q with stage := .waiting caller }

/-- One turn of a caller. -/
def turn (q : Request) (r : Run η) : Run η × Progress η :=
  match q.stage with
  | .asking =>
      let next := r.step .acquire
      (next, { q with asked := q.asked + 1 }.look next r.callers.length)
  | .waiting caller =>
      let next := r.step (.deliver caller)
      (next, q.look next caller)

/-- The caller goes away. -/
def drop (q : Request) (r : Run η) : Run η :=
  match q.stage with
  | .asking => r
  | .waiting caller => r.step (.drop caller)

end Request

end Swarmkeeper.Service
