import Swarmkeeper.Pattern.Reader
import Swarmkeeper.Pattern.Match
import Swarmkeeper.Pattern.Size

/-!
Patterns that can be searched for. Client names are searched as text; peer ids as bytes, where classes
are of ASCII characters unless the pattern asks for Unicode. This is the notation that the program goes by.
-/

namespace Swarmkeeper

/-- A pattern that has been read for one kind of subject. -/
structure Pattern where
  subject : Pattern.Subject
  node : Pattern.Node
deriving DecidableEq

namespace Pattern

/-- The pattern that the text writes, if it writes one of bounded size. -/
def compile? (s : Subject) (source : String) : Option Pattern := do
  let e ← Reader.read? source.toList
  let (n, _) ← Node.ofExpr s (.initial s) e
  if n.size ≤ Node.maxSize then some ⟨s, n⟩ else none

/-- The pattern occurs in the bytes. -/
def occursIn (p : Pattern) (bytes : List UInt8) : Bool :=
  p.node.occurs p.subject (.ofBytes bytes)

instance : Matcher where
  Compiled := Pattern
  decEq := inferInstance
  compile? := compile?
  occursIn := occursIn

end Pattern

end Swarmkeeper
