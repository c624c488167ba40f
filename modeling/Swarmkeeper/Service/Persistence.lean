import Swarmkeeper.Service.Backoff
import Swarmkeeper.Service.Connection

/-!
A caller that has a connection to itself and asks again as its policy says. Its start calls are numbered
by attempt.
-/

namespace Swarmkeeper.Service

variable {η : Type}

/-- Asks once, and waits until the attempt that this starts has ended as the start call says. -/
def Connection.ask (c : Connection η) (start : Nat → Except Failure η) :
    Except Failure η × Connection η :=
  match c.acquire with
  | (.present handle, c) => (.ok handle, c)
  | (.joined attempt, c) | (.started attempt, c) =>
      let result := start attempt
      (result, (c.complete attempt result).2)

namespace RetryPolicy

theorem allowsAfter_of_respond {p : RetryPolicy} {attempt delay : Nat} {r : Except Failure η}
    (h : p.respond attempt r = .again delay) : attempt < p.maxAttempts.toNat := by
  unfold respond at h
  split at h
  · cases h
  · split at h
    · cases h
    · split at h
      · rename_i allowed
        simpa [allowsAfter] using allowed
      · cases h

/-- Asks until there is a handle or the policy says that it is enough; `asked` is the number of times
before. -/
def persist (p : RetryPolicy) (start : Nat → Except Failure η) (asked : Nat) (c : Connection η) :
    Except Failure η × Connection η :=
  let (result, c) := c.ask start
  match _h : p.respond (asked + 1) result with
  | .finish result => (result, c)
  | .again _ => p.persist start (asked + 1) c
termination_by p.maxAttempts.toNat - asked
decreasing_by
  have := allowsAfter_of_respond _h
  omega

end RetryPolicy

end Swarmkeeper.Service
