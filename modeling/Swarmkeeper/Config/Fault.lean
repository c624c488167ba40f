import Swarmkeeper.Json.Codec

/-!
Why there is no configuration.
-/

namespace Swarmkeeper.Config

/-- A file that cannot be read, a text that is no configuration, or a value that is not allowed. -/
inductive Fault where
  | unreadable (path reason : String)
  | malformed (reason : String)
  | invalid (field reason : String)
deriving DecidableEq, Repr

namespace Fault

/-- The wording of a fault. -/
def message : Fault → String
  | unreadable path reason => s!"Failed to read config file {path}: {reason}"
  | malformed reason => s!"Failed to parse config: {reason}"
  | invalid field reason => s!"Invalid value for {field}: {reason}"

end Fault

end Swarmkeeper.Config
