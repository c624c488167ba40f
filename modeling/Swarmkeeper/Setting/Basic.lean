/-!
Values that change over time. Only the latest value is kept; a reader learns whether something has been
published since it last looked by comparing versions.
-/

namespace Swarmkeeper

/-- The current value and the number of publications so far. -/
structure Setting (α : Type) where
  value : α
  version : Nat
deriving DecidableEq

namespace Setting

variable {α : Type}

/-- A setting before its first publication. -/
def ofValue (value : α) : Setting α := ⟨value, 0⟩

/-- Publishes a value, even one that is equal to the current one. -/
def set (s : Setting α) (value : α) : Setting α := ⟨value, s.version + 1⟩

/-- Publishes what a function makes of the current value. -/
def update (s : Setting α) (f : α → α) : Setting α := s.set (f s.value)

/-- Publishes a value if it differs from the current one, and tells whether it did. -/
def setIfChanged [BEq α] (s : Setting α) (value : α) : Bool × Setting α :=
  if s.value == value then (false, s) else (true, s.set value)

end Setting

/-- A reader of a setting: the version that it has seen. -/
structure Receiver where
  seen : Nat
deriving DecidableEq, Repr

namespace Receiver

/-- A reader to whom the current value is nothing new. -/
def ofSetting {α : Type} (s : Setting α) : Receiver := ⟨s.version⟩

/-- Something was published that the reader has not seen. -/
def isBehind {α : Type} (r : Receiver) (s : Setting α) : Bool := r.seen < s.version

end Receiver

end Swarmkeeper
