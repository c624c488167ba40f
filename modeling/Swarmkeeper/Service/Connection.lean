import Swarmkeeper.Service.Failure
import Swarmkeeper.Service.Status
import Swarmkeeper.Setting.Basic

/-!
The connection to a service: at most one attempt at a time, which all callers share. An attempt starts
with the first caller that finds no handle and ends when its start call returns, when a disconnect
comes before that, or when its last waiting caller goes away. A result, a departure or a loss that
belongs to an earlier attempt changes nothing.
-/

namespace Swarmkeeper.Service

/-- A phase with what belongs to it. -/
inductive State (η : Type) where
  | idle
  | connecting
  | connected (handle : η)
  | disconnected
  | failed (reason : String)
deriving DecidableEq, Repr

namespace State

variable {η : Type}

/-- The phase alone. -/
def phase : State η → Phase
  | idle => .idle
  | connecting => .connecting
  | connected _ => .connected
  | disconnected => .disconnected
  | failed _ => .failed

theorem phase_eq_connecting {s : State η} : s.phase = .connecting ↔ s = .connecting := by
  cases s <;> simp [phase]

theorem phase_eq_connected {s : State η} : s.phase = .connected ↔ ∃ h, s = .connected h := by
  cases s <;> simp [phase]

/-- The handle of a connected service. -/
def handle? : State η → Option η
  | connected h => some h
  | _ => none

end State

/-- How an attempt ended, for those who waited for it. -/
inductive Outcome (η : Type) where
  | connected (handle : η)
  | failed (failure : Failure)
  | disconnected
  | abandoned
deriving DecidableEq, Repr

/-- What a waiting caller is given. -/
def Outcome.result {η : Type} : Outcome η → Except Failure η
  | connected h => .ok h
  | failed f => .error f
  | disconnected => .error .disconnected
  | abandoned => .error .abandoned

/-- An attempt that has not ended, and how many callers wait for it. -/
structure Pending where
  attempt : Nat
  waiters : Nat
deriving DecidableEq, Repr

/-- A failure: its wording, and when it was, in milliseconds of universal time. -/
structure Mishap where
  reason : String
  moment : Int
deriving DecidableEq, Repr

/-- A connection. -/
structure Connection (η : Type) where
  state : State η
  /-- The number of attempts so far, which is the number of the last one. -/
  attempt : Nat
  pending : Option Pending
  /-- The attempt whose handle is watched. -/
  watched : Option Nat
  /-- The number of failures since the last success. -/
  failures : Nat
  mishap : Option Mishap
  /-- The moment that the clock shows. -/
  now : Int
  /-- The state as those see it who follow the connection. -/
  published : Setting (State η)
  /-- Every step so far, latest first. -/
  history : List Transition
deriving DecidableEq

/-- What a caller meets that asks for a handle. -/
inductive Answer (η : Type) where
  | present (handle : η)
  | joined (attempt : Nat)
  | started (attempt : Nat)
deriving DecidableEq, Repr

namespace Connection

variable {η : Type}

/-- A connection that nobody has asked for. -/
def idle : Connection η where
  state := .idle
  attempt := 0
  pending := none
  watched := none
  failures := 0
  mishap := none
  now := 0
  published := .ofValue .idle
  history := []

/-- Enters a state. -/
def enter (c : Connection η) (next : State η) : Connection η :=
  { c with
    state := next
    published := c.published.set next
    history := ⟨c.state.phase, next.phase, c.attempt⟩ :: c.history }

@[simp] theorem enter_state (c : Connection η) (s : State η) : (c.enter s).state = s := rfl

@[simp] theorem enter_history (c : Connection η) (s : State η) :
    (c.enter s).history = ⟨c.state.phase, s.phase, c.attempt⟩ :: c.history := rfl

/-- Starts an attempt with one waiting caller. -/
def start (c : Connection η) : Connection η :=
  let c := { c with attempt := c.attempt + 1, pending := some ⟨c.attempt + 1, 1⟩ }
  c.enter .connecting

/-- A caller asks for the handle. -/
def acquire (c : Connection η) : Answer η × Connection η :=
  match c.state, c.pending with
  | .connected handle, _ => (.present handle, c)
  | .connecting, some p =>
      (.joined p.attempt, { c with pending := some { p with waiters := p.waiters + 1 } })
  | _, _ => (.started (c.attempt + 1), c.start)

/-- This attempt has not ended. -/
def isPending (c : Connection η) (attempt : Nat) : Bool :=
  match c.pending with
  | some p => p.attempt == attempt
  | none => false

theorem isPending_iff {c : Connection η} {attempt : Nat} :
    c.isPending attempt ↔ ∃ waiters, c.pending = some ⟨attempt, waiters⟩ := by
  unfold isPending
  cases hp : c.pending with
  | none => simp
  | some p => cases p; simp

/-- The start call of an attempt has returned. -/
def complete (c : Connection η) (attempt : Nat) (result : Except Failure η) :
    Option (Outcome η) × Connection η :=
  if c.isPending attempt then
    let c := { c with pending := none }
    match result with
    | .ok handle =>
        let c := { c with failures := 0 }.enter (.connected handle)
        (some (.connected handle), { c with watched := some attempt })
    | .error f =>
        let c := { c with failures := c.failures + 1, mishap := some ⟨f.message, c.now⟩ }
        (some (.failed f), c.enter (.failed f.message))
  else (none, c)

/-- The service has gone, or is known not to come. -/
def disconnect (c : Connection η) : Option (Nat × Outcome η) × Connection η :=
  match c.state with
  | .connected _ | .connecting =>
      let ended := c.pending.map fun p => (p.attempt, .disconnected)
      (ended, { c with pending := none, watched := none }.enter .disconnected)
  | _ => (none, c)

/-- The handle of an attempt can no longer be used. -/
def lose (c : Connection η) (attempt : Nat) : Connection η :=
  match c.state with
  | .connected _ =>
      if c.attempt = attempt then { c with watched := none }.enter .disconnected else c
  | _ => c

/-- A caller that waits for an attempt goes away. -/
def release (c : Connection η) (attempt : Nat) : Option (Outcome η) × Connection η :=
  match c.pending with
  | some p =>
      if p.attempt ≠ attempt then (none, c)
      else if 1 < p.waiters then
        (none, { c with pending := some { p with waiters := p.waiters - 1 } })
      else (some .abandoned, { c with pending := none }.enter .idle)
  | none => (none, c)

/-- The handle, without asking for one. -/
def handle? (c : Connection η) : Option η := c.state.handle?

/-- Why the last attempt failed that did. -/
def lastFailure (c : Connection η) : Option String := c.mishap.map (·.reason)

/-- The connection when the clock shows this moment. -/
def atMoment (c : Connection η) (moment : Int) : Connection η := { c with now := moment }

/-- What people see who look at the connection. -/
def status (c : Connection η) : Status where
  phase := c.state.phase
  attempt := c.attempt
  failures := c.failures
  lastFailure := c.lastFailure
  lastFailureAt := c.mishap.map (·.moment)

end Connection

end Swarmkeeper.Service
