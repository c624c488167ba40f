import Swarmkeeper.Service.Request

/-!
A caller that keeps to its policy, among others and in time. It asks or looks at its turns and sleeps
between one time that it asks and the next. What happens to the connection meanwhile is up to others.
-/

namespace Swarmkeeper.Service

variable {η : Type}

/-- The policy allows a caller to ask so many times. -/
def RetryPolicy.most (p : RetryPolicy) : Nat := max 1 p.maxAttempts.toNat

/-- The caller whose own doing an event is. -/
def Event.caller? : Event η → Option Nat
  | .drop caller | .deliver caller => some caller
  | _ => none

/-- The number that a caller has at a turn. -/
def Request.number (q : Request) (r : Run η) : Nat :=
  match q.stage with
  | .asking => r.callers.length
  | .waiting caller => caller

/-- One time that a caller has asked and was given something. -/
structure Inquiry where
  /-- The number that it had among the callers. -/
  caller : Nat
  askedAt : Nat
  answeredAt : Nat
  /-- How long it sleeps afterwards if it goes on. -/
  rest : Option Nat
deriving DecidableEq, Repr

/-- Where a caller stands. -/
inductive Standing (η : Type) where
  /-- It sleeps until this time and then asks. -/
  | due (time : Nat) (request : Request)
  /-- It has asked at this time and waits. -/
  | waiting (since : Nat) (request : Request)
  | done (result : Except Failure η)
  | gone

/-- The number as which a caller waits. -/
def Standing.caller? : Standing η → Option Nat
  | .waiting _ ⟨_, _, .waiting caller⟩ => some caller
  | _ => none

/-- A caller and the connection that it wants a handle from. Times are in milliseconds. -/
structure Pursuit (η : Type) where
  run : Run η
  now : Nat
  standing : Standing η
  /-- The number of times that it has asked. -/
  asked : Nat
  /-- The times that it was given something, in order. -/
  inquiries : List Inquiry

/-- What can happen to a caller and its connection. -/
inductive Move (η : Type) where
  | turn
  /-- Somebody else does something. -/
  | event (e : Event η)
  | tick (amount : Nat)
  /-- The caller goes away. -/
  | leave

namespace Pursuit

/-- A caller before its first turn. -/
def start (p : RetryPolicy) (r : Run η) (now : Nat) : Pursuit η :=
  ⟨r, now, .due now (.ofPolicy (some p)), 0, []⟩

/-- What a turn comes to for a caller of this number that has asked at this time. -/
def come (x : Pursuit η) (caller since : Nat) : Request.Progress η → Pursuit η
  | .wait q => { x with standing := .waiting since q }
  | .sleep delay q =>
      { x with
        standing := .due (x.now + delay) q
        inquiries := x.inquiries ++ [⟨caller, since, x.now, some delay⟩] }
  | .done result =>
      { x with
        standing := .done result
        inquiries := x.inquiries ++ [⟨caller, since, x.now, none⟩] }

/-- A turn of a caller that has asked at this time, or asks now. -/
def proceed (x : Pursuit η) (since : Nat) (q : Request) : Pursuit η :=
  let (run, progress) := q.turn x.run
  let asked := if q.stage = .asking then x.asked + 1 else x.asked
  { x with run, asked }.come (q.number x.run) since progress

/-- Nobody else can look for what the caller was given, or go away in its place. -/
def owns (x : Pursuit η) (e : Event η) : Bool :=
  e.caller?.isSome && e.caller? == x.standing.caller?

/-- What a move makes of a caller and its connection. -/
def step (x : Pursuit η) : Move η → Pursuit η
  | .turn =>
      match x.standing with
      | .due time q => if time ≤ x.now then x.proceed x.now q else x
      | .waiting since q => x.proceed since q
      | _ => x
  | .event e => if x.owns e then x else { x with run := x.run.step e }
  | .tick amount => { x with now := x.now + amount }
  | .leave =>
      match x.standing with
      | .due _ q | .waiting _ q => { x with run := q.drop x.run, standing := .gone }
      | _ => x

/-- The caller and its connection after these moves. -/
def after (x : Pursuit η) (moves : List (Move η)) : Pursuit η := moves.foldl step x

/-- The caller and its connection after the first moves of an endless sequence. -/
def trace (x : Pursuit η) (σ : Nat → Move η) : Nat → Pursuit η
  | 0 => x
  | n + 1 => (x.trace σ n).step (σ n)

end Pursuit

end Swarmkeeper.Service
