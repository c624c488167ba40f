/-!
How reaching a service can fail.
-/

namespace Swarmkeeper.Service

/-- Why a caller got no handle. -/
inductive Failure where
  | startFailed (reason : String)
  | noHandle
  | disconnected
  | abandoned
  | retriesExhausted (attempts : Nat) (last : String)
deriving DecidableEq, Repr

namespace Failure

/-- The wording of a failure. -/
def message : Failure → String
  | startFailed reason => s!"Service start failed: {reason}"
  | noHandle => "Service started but returned no handle"
  | disconnected => "Service disconnected"
  | abandoned => "Connection attempt abandoned"
  | retriesExhausted attempts last => s!"Service unavailable after {attempts} attempts: {last}"

/-- Another attempt may succeed. -/
def isRetryable : Failure → Bool
  | startFailed _ | noHandle | disconnected => true
  | abandoned | retriesExhausted .. => false

end Failure

end Swarmkeeper.Service
