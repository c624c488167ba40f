import Swarmkeeper.Engine.Kind
import Swarmkeeper.Service.Failure
import Swarmkeeper.Web.Fault

/-!
Why there is no session.
-/

namespace Swarmkeeper.Engine

/-- What went wrong in an engine. -/
inductive Fault where
  | unsupported (engine : Kind) (reason : String)
  | construction (engine : Kind) (reason : String)
  | saveDirectory (path reason : String)
  | web (fault : Web.Fault)
  | service (failure : Service.Failure)
  /-- The engine has been shut down. -/
  | closed (engine : Kind)
  /-- No engine can be used. -/
  | noEngine
deriving DecidableEq, Repr

/-- The wording of a fault. -/
def Fault.message : Fault → String
  | unsupported engine reason => s!"Engine {engine.label} is not supported: {reason}"
  | construction engine reason => s!"Engine {engine.label} failed to create a session: {reason}"
  | saveDirectory path reason => s!"Save directory {path} is unusable: {reason}"
  | web fault => s!"HTTP setup failed: {fault.message}"
  | service failure => s!"Service error: {failure.message}"
  | closed engine => s!"Engine {engine.label} has been shut down"
  | noEngine => "No usable download engine"

end Swarmkeeper.Engine
