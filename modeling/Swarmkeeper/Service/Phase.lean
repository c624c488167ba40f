import Swarmkeeper.Json.Codec

/-!
The phases of a connection to a service, the edges between them, and the record of one step along an
edge.
-/

namespace Swarmkeeper.Service

open Swarmkeeper.Json

/-- Where a connection is in its life. -/
inductive Phase where
  | idle
  | connecting
  | connected
  | disconnected
  | failed
deriving DecidableEq, Repr

namespace Phase

/-- The name of a phase. -/
def name : Phase → String
  | idle => "idle"
  | connecting => "connecting"
  | connected => "connected"
  | disconnected => "disconnected"
  | failed => "failed"

/-- Every phase. -/
def all : List Phase := [idle, connecting, connected, disconnected, failed]

/-- The phase with this name. -/
def ofName? (s : String) : Option Phase := all.find? fun p => p.name = s

/-- The edges of the life cycle. A connecting service goes back to idle when nobody waits for it any
more, and is disconnected when a disconnect comes before its answer. -/
def canBecome : Phase → Phase → Bool
  | idle, connecting => true
  | connecting, connected | connecting, failed | connecting, idle | connecting, disconnected => true
  | connected, disconnected => true
  | failed, connecting | disconnected, connecting => true
  | _, _ => false

end Phase

/-- One step of a connection and the attempt it belongs to. -/
structure Transition where
  source : Phase
  target : Phase
  attempt : Nat
deriving DecidableEq, Repr

namespace Transition

/-- A step as an object. -/
def toTree (t : Transition) : Tree :=
  .ofMembers [("from", .text t.source.name), ("to", .text t.target.name),
    ("attempt", .natural t.attempt)]

end Transition

end Swarmkeeper.Service
