import Swarmkeeper.Panic
import Swarmkeeper.Service.Connection

/-!
A connection together with those who deal with it: the callers, and the start calls of its attempts.
Events come in any order; one that cannot happen any more changes nothing. A start call that was called
off may still return if it had begun.
-/

namespace Swarmkeeper.Service

variable {η : Type}

/-- A caller that has asked for a handle. One that met a handle has joined no attempt. -/
inductive Caller (η : Type) where
  | waiting (attempt : Nat)
  | returned (attempt : Option Nat) (result : Except Failure η)
  | dropped (attempt : Nat)

namespace Caller

/-- The attempt that a caller has started or joined. -/
def attempt? : Caller η → Option Nat
  | waiting attempt | dropped attempt => some attempt
  | returned attempt _ => attempt

/-- The caller has joined this attempt and has neither returned nor gone away. -/
def waitsFor (attempt : Nat) : Caller η → Bool
  | waiting a => a == attempt
  | _ => false

end Caller

/-- How a start call ends. -/
inductive Ending (η : Type) where
  | returned (result : Except Failure η)
  | panicked (panic : Panic)

/-- What the end of a start call comes to; a panic is a failure. -/
def Ending.result : Ending η → Except Failure η
  | returned result => result
  | panicked p => .error (.startFailed s!"starter panicked: {p.reason}")

theorem Ending.result_eq_ok {e : Ending η} {h : η} : e.result = .ok h ↔ e = .returned (.ok h) := by
  cases e <;> simp [Ending.result]

/-- How far a start call has come. -/
inductive Progress (η : Type) where
  | due
  | begun
  | ended (ending : Ending η)

/-- The start call of an attempt. -/
structure StartCall (η : Type) where
  attempt : Nat
  progress : Progress η
  isCalledOff : Bool

namespace StartCall

/-- The start call of an attempt before it begins. -/
def ofAttempt (attempt : Nat) : StartCall η := ⟨attempt, .due, false⟩

/-- The call may begin. -/
def canBegin : StartCall η → Bool
  | ⟨_, .due, false⟩ => true
  | _ => false

/-- The call may end; to have been called off does not keep it from that. -/
def canEnd : StartCall η → Bool
  | ⟨_, .begun, _⟩ => true
  | _ => false

/-- The call has begun, whatever has become of it. -/
def hasBegun : StartCall η → Bool
  | ⟨_, .due, _⟩ => false
  | _ => true

/-- How the call ended, if it has. -/
def ending? : StartCall η → Option (Ending η)
  | ⟨_, .ended ending, _⟩ => some ending
  | _ => none

/-- The call begins. -/
def begin (c : StartCall η) : StartCall η := { c with progress := .begun }

/-- The call ends. -/
def finish (ending : Ending η) (c : StartCall η) : StartCall η := { c with progress := .ended ending }

/-- The call is called off. -/
def callOff (c : StartCall η) : StartCall η := { c with isCalledOff := true }

end StartCall

/-- Connection, callers by number, start calls, and how the attempts ended that have ended. -/
structure Run (η : Type) where
  connection : Connection η
  callers : List (Caller η)
  calls : List (StartCall η)
  outcomes : List (Nat × Outcome η)

/-- What can happen to a connection. -/
inductive Event (η : Type) where
  /-- A new caller asks for a handle. -/
  | acquire
  /-- A waiting caller goes away. -/
  | drop (caller : Nat)
  /-- A waiting caller looks whether its attempt has ended. -/
  | deliver (caller : Nat)
  /-- The start call of an attempt begins. -/
  | begin (attempt : Nat)
  /-- The start call of an attempt ends. -/
  | finish (attempt : Nat) (ending : Ending η)
  | disconnect
  /-- The handle of an attempt is lost. -/
  | lose (attempt : Nat)
  /-- The clock shows another moment; it may have been put back. -/
  | clock (moment : Int)

namespace Run

/-- A run before its first event. -/
def empty : Run η := ⟨.idle, [], [], []⟩

/-- The start call of an attempt. -/
def call? (r : Run η) (attempt : Nat) : Option (StartCall η) := r.calls.find? (·.attempt == attempt)

/-- Changes the start call of an attempt. -/
def changeCall (r : Run η) (attempt : Nat) (f : StartCall η → StartCall η) : Run η :=
  { r with calls := r.calls.map fun c => if c.attempt = attempt then f c else c }

@[simp] theorem changeCall_connection (r : Run η) (attempt : Nat) (f : StartCall η → StartCall η) :
    (r.changeCall attempt f).connection = r.connection := rfl

/-- How the start call of an attempt ended, if it has. -/
def ending? (r : Run η) (attempt : Nat) : Option (Ending η) := (r.call? attempt).bind StartCall.ending?

/-- How an attempt ended, if it has. -/
def outcome? (r : Run η) (attempt : Nat) : Option (Outcome η) := r.outcomes.lookup attempt

/-- Notes how an attempt ended; its start call is over. -/
def settle (r : Run η) (attempt : Nat) (outcome : Outcome η) : Run η :=
  { r with outcomes := (attempt, outcome) :: r.outcomes }.changeCall attempt .callOff

@[simp] theorem settle_connection (r : Run η) (attempt : Nat) (o : Outcome η) :
    (r.settle attempt o).connection = r.connection := rfl

/-- Notes how an attempt ended, if it did. -/
def settle? (r : Run η) (attempt : Nat) (outcome : Option (Outcome η)) : Run η :=
  match outcome with
  | some o => r.settle attempt o
  | none => r

/-- Gives up the attempt that is under way, if there is one; nobody stops its start call. -/
def forsake (r : Run η) : Run η :=
  match r.connection.pending with
  | some p => { r with outcomes := (p.attempt, .abandoned) :: r.outcomes }
  | none => r

/-- A new caller asks for a handle. -/
def acquire (r : Run η) : Run η :=
  match r.connection.acquire with
  | (.present handle, connection) =>
      { r with connection, callers := r.callers ++ [.returned none (.ok handle)] }
  | (.joined attempt, connection) =>
      { r with connection, callers := r.callers ++ [.waiting attempt] }
  | (.started attempt, connection) =>
      { r.forsake with
        connection
        callers := r.callers ++ [.waiting attempt]
        calls := r.calls ++ [.ofAttempt attempt] }

/-- A waiting caller goes away. -/
def drop (r : Run η) (caller : Nat) : Run η :=
  match r.callers[caller]? with
  | some (.waiting attempt) =>
      let (outcome, connection) := r.connection.release attempt
      { r with connection, callers := r.callers.set caller (.dropped attempt) }.settle? attempt outcome
  | _ => r

/-- A waiting caller returns if its attempt has ended. -/
def deliver (r : Run η) (caller : Nat) : Run η :=
  match r.callers[caller]? with
  | some (.waiting attempt) =>
      match r.outcome? attempt with
      | some outcome =>
          { r with callers := r.callers.set caller (.returned (some attempt) outcome.result) }
      | none => r
  | _ => r

/-- The start call of an attempt has not been called off and has not begun. -/
def canBegin (r : Run η) (attempt : Nat) : Bool := (r.call? attempt).any (·.canBegin)

/-- The start call of an attempt has begun and has not ended. -/
def canEnd (r : Run η) (attempt : Nat) : Bool := (r.call? attempt).any (·.canEnd)

/-- The start call of an attempt goes on, and has not been called off. -/
def isCalling (r : Run η) (attempt : Nat) : Bool :=
  (r.call? attempt).any fun c => c.canEnd && !c.isCalledOff

/-- The number of start calls that have begun. -/
def begun (r : Run η) : Nat := r.calls.countP (·.hasBegun)

/-- The start call of an attempt begins. -/
def begin (r : Run η) (attempt : Nat) : Run η :=
  if r.canBegin attempt then r.changeCall attempt .begin else r

/-- The start call of an attempt ends. -/
def finish (r : Run η) (attempt : Nat) (ending : Ending η) : Run η :=
  if r.canEnd attempt then
    let (outcome, connection) := r.connection.complete attempt ending.result
    ({ r with connection }.changeCall attempt (.finish ending)).settle? attempt outcome
  else r

/-- The service has gone. -/
def disconnect (r : Run η) : Run η :=
  match r.connection.disconnect with
  | (some (attempt, outcome), connection) => { r with connection }.settle attempt outcome
  | (none, connection) => { r with connection }

/-- What an event makes of a run. -/
def step (r : Run η) : Event η → Run η
  | .acquire => r.acquire
  | .drop caller => r.drop caller
  | .deliver caller => r.deliver caller
  | .begin attempt => r.begin attempt
  | .finish attempt ending => r.finish attempt ending
  | .disconnect => r.disconnect
  | .lose attempt => { r with connection := r.connection.lose attempt }
  | .clock moment => { r with connection := r.connection.atMoment moment }

/-- The run after these events. -/
def after (events : List (Event η)) : Run η := events.foldl step empty

/-- The callers that wait for an attempt, in the order in which they came. -/
def waiting (r : Run η) (attempt : Nat) : List Nat :=
  (List.range r.callers.length).filter fun i => r.callers[i]?.any (·.waitsFor attempt)

/-- What a caller was given, if it has returned. -/
def result? (r : Run η) (caller : Nat) : Option (Except Failure η) :=
  match r.callers[caller]? with
  | some (.returned _ result) => some result
  | _ => none

end Run

end Swarmkeeper.Service
