import Swarmkeeper.Engine.Fault
import Swarmkeeper.Engine.Kind
import Swarmkeeper.Panic

/-!
The one session of an engine, built when it is first asked for. Constructions are numbered; while one is
under way nobody starts another, and one that ends after the cache was closed gives a session that is
only closed. A failed construction leaves the cache as if it had not been.
-/

namespace Swarmkeeper.Engine

/-- What a cache holds. -/
inductive Slot where
  | empty
  | building (generation : Nat)
  | ready (session : Nat)
  | closed
deriving DecidableEq, Repr

/-- How a construction ended. -/
inductive BuildOutcome where
  /-- The session is the one of the cache. -/
  | installed (session : Nat)
  /-- The session came too late. -/
  | orphaned (session : Nat)
  | failed (fault : Fault)
deriving DecidableEq, Repr

/-- Who has a session on their hands and is about to close it. -/
inductive Holder where
  /-- One who has taken it out of the slot. -/
  | closer
  /-- The construction that it came from. -/
  | construction (generation : Nat)
deriving DecidableEq, Repr

/-- A construction: the settings it is made with, and how it ended, once it has. -/
structure Build where
  settings : Settings
  outcome : Option BuildOutcome

/-- A cache. -/
structure Cache where
  kind : Kind
  slot : Slot
  /-- The end of the cache has been announced. -/
  isCancelled : Bool
  /-- The constructions so far; that of generation `g` is the `g`-th. -/
  builds : List Build
  /-- The sessions that are about to be closed, and by whom. -/
  discarded : List (Holder × Nat)
  /-- The sessions that were closed, in order. -/
  closings : List Nat

/-- What one meets who asks a cache for its session. -/
inductive Supply where
  | present (session : Nat)
  | closed
  | joined (generation : Nat)
  | started (generation : Nat)
deriving DecidableEq, Repr

/-- The fault of a constructor that panicked. -/
def panicFault (kind : Kind) (p : Panic) : Fault :=
  .construction kind s!"constructor panicked: {p.reason}"

/-- What a cache makes of the end of a constructor, which may have panicked. -/
def buildResult (kind : Kind) : Except Panic (Except Fault Nat) → Except Fault Nat
  | .ok result => result
  | .error p => .error (panicFault kind p)

/-- What those get who waited for a construction. -/
def BuildOutcome.result (kind : Kind) : BuildOutcome → Except Fault Nat
  | installed session => .ok session
  | orphaned _ => .error (.closed kind)
  | failed fault => .error fault

namespace Cache

/-- A cache that nobody has asked. -/
def ofKind (kind : Kind) : Cache := ⟨kind, .empty, false, [], [], []⟩

/-- Looks for the session in the slot; a construction that this starts is made with these settings. -/
def supply (c : Cache) (settings : Settings) : Supply × Cache :=
  match c.slot with
  | .ready session => (.present session, c)
  | .closed => (.closed, c)
  | .building generation => (.joined generation, c)
  | .empty =>
      let generation := c.builds.length + 1
      (.started generation,
        { c with
          slot := .building generation
          builds := c.builds ++ [⟨settings, none⟩] })

/-- Asks for the session. -/
def get (c : Cache) (settings : Settings) : Supply × Cache :=
  if c.isCancelled then (.closed, c) else c.supply settings

/-- The session, if there is one; none is built. -/
def peek (c : Cache) : Option Nat :=
  match c.slot with
  | .ready session => some session
  | _ => none

/-- The construction of this generation. -/
def build? (c : Cache) (generation : Nat) : Option Build :=
  if generation = 0 then none else c.builds[generation - 1]?

/-- The construction has been started and has not ended. -/
def isUnderWay (c : Cache) (generation : Nat) : Bool :=
  match c.build? generation with
  | some b => b.outcome.isNone
  | none => false

/-- Somebody has a session on their hands. -/
def isHolding (c : Cache) (holder : Holder) : Bool := c.discarded.any (·.1 = holder)

/-- How a construction ended, once it is over: one whose session came too late has yet to close it. -/
def outcome? (c : Cache) (generation : Nat) : Option BuildOutcome :=
  if c.isHolding (.construction generation) then none
  else (c.build? generation).bind (·.outcome)

/-- Notes how a construction ended. -/
def note (c : Cache) (generation : Nat) (outcome : BuildOutcome) : Cache :=
  { c with builds := c.builds.modify (generation - 1) fun b => { b with outcome := some outcome } }

/-- A construction has ended, with a session or a fault. -/
def settle (c : Cache) (generation : Nat) (result : Except Fault Nat) : Cache :=
  let isCurrent := c.slot = .building generation
  match result with
  | .ok session =>
      if isCurrent then { c with slot := .ready session }.note generation (.installed session)
      else
        { c with discarded := c.discarded ++ [(Holder.construction generation, session)] }.note generation
          (.orphaned session)
  | .error fault =>
      (if isCurrent then { c with slot := .empty } else c).note generation (.failed fault)

/-- A construction that is under way has ended. -/
def finish (c : Cache) (generation : Nat) (result : Except Fault Nat) : Cache :=
  if c.isUnderWay generation then c.settle generation result else c

/-- Announces the end of the cache. -/
def cancel (c : Cache) : Cache := { c with isCancelled := true }

/-- Closes the cache once its end has been announced; a session in the slot is taken out. -/
def vacate (c : Cache) : Cache :=
  if c.isCancelled then
    { c with
      slot := .closed
      discarded := match c.slot with
        | .ready session => c.discarded ++ [(Holder.closer, session)]
        | _ => c.discarded }
  else c

/-- Somebody closes the session that they have on their hands. -/
def dispose (c : Cache) (holder : Holder) (session : Nat) : Cache :=
  if (holder, session) ∈ c.discarded then
    { c with
      discarded := c.discarded.erase (holder, session)
      closings := c.closings ++ [session] }
  else c

end Cache

end Swarmkeeper.Engine
