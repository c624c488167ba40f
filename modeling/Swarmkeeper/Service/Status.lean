import Swarmkeeper.Service.Phase
import Swarmkeeper.Service.Timestamp

/-!
A snapshot of a connection for people who look at it.
-/

namespace Swarmkeeper.Service

open Swarmkeeper.Json

/-- Phase, counters and last failure of a connection. -/
structure Status where
  phase : Phase
  /-- The number of attempts so far. -/
  attempt : Nat
  /-- The number of failures since the last success. -/
  failures : Nat
  lastFailure : Option String
  /-- When the last failure was, in milliseconds. -/
  lastFailureAt : Option Int
deriving DecidableEq, Repr

namespace Status

/-- One line on the state of the service. -/
def describe (s : Status) : String :=
  match s.phase, s.lastFailure with
  | .connecting, _ => "connecting…"
  | .failed, some reason => s!"failed: {reason}"
  | phase, _ => phase.name

/-- Text or null. -/
def optionalText : Option String → Tree
  | some s => .text s
  | none => .null

/-- A snapshot as an object. -/
def toTree (s : Status) : Tree :=
  .ofMembers [("state", .text s.phase.name), ("attempt", .natural s.attempt),
    ("consecutive_failures", .natural s.failures), ("last_failure", optionalText s.lastFailure),
    ("last_failure_at", optionalText (s.lastFailureAt.map timestampText))]

end Status

end Swarmkeeper.Service
