import Swarmkeeper.Engine.Fault
import Swarmkeeper.Files.Tree

/-!
The directory into which sessions save downloads.
-/

namespace Swarmkeeper.Engine

/-- Makes sure that the directory of a path is there. -/
def ensureDirectory (tree : Files.Tree) (path : String) : Except Fault Unit × Files.Tree :=
  let (outcome, tree) := tree.makeDirectories path
  (outcome.mapError fun f => .saveDirectory path f.message, tree)

end Swarmkeeper.Engine
