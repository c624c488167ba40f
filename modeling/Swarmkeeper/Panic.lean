/-!
Computations that break off.
-/

namespace Swarmkeeper

/-- A computation that broke off, with what it said, if that is text. -/
structure Panic where
  text : Option String
deriving DecidableEq, Repr

/-- What is told of a panic. -/
def Panic.reason (p : Panic) : String := p.text.getD "unknown panic"

end Swarmkeeper
