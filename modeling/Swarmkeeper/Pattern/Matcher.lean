/-!
What the rules for admission ask of search patterns: that they can be read, and looked for in bytes. How a
pattern is written and what it means is not their concern.
-/

namespace Swarmkeeper.Pattern

/-- What a pattern is applied to. -/
inductive Subject where
  | text
  | bytes
deriving DecidableEq, Repr

/-- A notation for patterns. -/
class Matcher where
  /-- Patterns that have been read. -/
  Compiled : Type
  decEq : DecidableEq Compiled
  /-- The pattern that the text writes, if it writes one. -/
  compile? : Subject → String → Option Compiled
  /-- The pattern occurs in the bytes. -/
  occursIn : Compiled → List UInt8 → Bool

instance [Matcher] : DecidableEq Matcher.Compiled := Matcher.decEq

end Swarmkeeper.Pattern
