import Swarmkeeper.Config.Fault
import Swarmkeeper.Engine.Fault
import Swarmkeeper.Files.Fault

/-!
What can go wrong anywhere in the program, and what the user is told about it.
-/

namespace Swarmkeeper

/-- A fault of one of the parts of the program. -/
inductive Fault where
  | engine (fault : Engine.Fault)
  | service (failure : Service.Failure)
  | web (fault : Web.Fault)
  | config (fault : Config.Fault)
  /-- The operating system refused something, with its own words. -/
  | system (reason : String)

namespace Fault

/-- The wording of a fault, for the log. -/
def message : Fault → String
  | engine f => s!"Engine error: {f.message}"
  | service f => s!"Service error: {f.message}"
  | web f => s!"Network error: {f.message}"
  | config f => s!"Configuration error: {f.message}"
  | system reason => s!"I/O error: {reason}"

/-- What the user is told of a fault of an engine. -/
def engineAdvice : Engine.Fault → String
  | .unsupported kind _ => s!"The {kind.label} engine is not available on this system"
  | .noEngine => "No download engine is available"
  | .closed _ => "The download engine is shutting down"
  | .saveDirectory path _ => s!"Cannot save downloads to {path}"
  | .construction .. | .web _ | .service _ => "The download engine failed to start"

/-- What the user is told. -/
def advice : Fault → String
  | engine f => engineAdvice f
  | service .disconnected => "The download service disconnected"
  | service _ => "The download service is unavailable"
  | web (.invalidProxy reason) => s!"Invalid proxy settings: {reason}"
  | web _ => "Network request failed"
  | config f => s!"Invalid configuration: {f.message}"
  | system _ => "File system error occurred"

/-- The user can mend the fault by giving something else. -/
def isUserFault : Fault → Bool
  | config _ | web (.invalidProxy _) | engine (.web (.invalidProxy _)) | engine (.saveDirectory ..) =>
      true
  | _ => false

end Fault

end Swarmkeeper
