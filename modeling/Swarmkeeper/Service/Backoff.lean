import Swarmkeeper.Duration
import Swarmkeeper.Json.Codec
import Swarmkeeper.Service.Failure

/-!
How often a caller tries again and how long it waits in between. The delay doubles with each attempt
up to a cap. Attempts are counted in 32 bits and milliseconds in 64; what does not fit saturates.
-/

namespace Swarmkeeper.Service

open Swarmkeeper.Json

/-- Delays in milliseconds and the number of attempts. -/
structure RetryPolicy where
  baseDelay : UInt64
  maxDelay : UInt64
  maxAttempts : UInt32
deriving DecidableEq, Repr

namespace RetryPolicy

/-- Half a second, doubling to at most thirty, in five attempts. -/
def standard : RetryPolicy := ⟨500, 30000, 5⟩

/-- One attempt and no delay. -/
def single : RetryPolicy := ⟨0, 0, 1⟩

/-- The delay after the first attempt. -/
def base (p : RetryPolicy) : Duration := .ofMillis p.baseDelay

/-- The longest delay. -/
def cap (p : RetryPolicy) : Duration := .ofMillis p.maxDelay

/-- How often the delay has doubled after an attempt. Attempts count from one; the delay stops doubling
after 31 steps. -/
def doublings (attempt : UInt32) : UInt32 := min (if attempt = 0 then 0 else attempt - 1) 31

/-- By how much the delay has grown after an attempt. -/
def growth (attempt : UInt32) : UInt64 := 1 <<< (doublings attempt).toUInt64

/-- The product, or the greatest word if it does not fit. -/
def saturatingMul (x y : UInt64) : UInt64 :=
  if x.toNat * y.toNat < UInt64.size then x * y else 0xFFFFFFFFFFFFFFFF

/-- The delay after a failed attempt. -/
def delayAfter (p : RetryPolicy) (attempt : UInt32) : Duration :=
  .ofMillis (min (saturatingMul p.base.millis (growth attempt)) p.cap.millis)

/-- The delay after the failed attempt of this number, in milliseconds. -/
def delayFor (p : RetryPolicy) (attempt : Nat) : Nat := (p.delayAfter (.ofNat attempt)).wideMillis.toNat

/-- Another attempt may follow this one. -/
def allowsAfter (p : RetryPolicy) (attempt : Nat) : Bool := attempt < p.maxAttempts.toNat

/-- What a caller does with the result of an attempt. -/
inductive Response (η : Type) where
  | finish (result : Except Failure η)
  /-- Tries again after a delay. -/
  | again (delay : Nat)

/-- What a caller with this policy does with the result of its attempt of this number. -/
def respond {η : Type} (p : RetryPolicy) (attempt : Nat) : Except Failure η → Response η
  | .ok handle => .finish (.ok handle)
  | .error f =>
      if !f.isRetryable then .finish (.error f)
      else if p.allowsAfter attempt then .again (p.delayFor attempt)
      else .finish (.error (.retriesExhausted attempt f.message))

/-- The fields of a policy. -/
def fields : List (RecordField RetryPolicy) :=
  [.of "base_delay" .word64 (·.baseDelay) fun x p => { p with baseDelay := x },
   .of "max_delay" .word64 (·.maxDelay) fun x p => { p with maxDelay := x },
   .of "max_attempts" .word32 (·.maxAttempts) fun x p => { p with maxAttempts := x }]

/-- Policies as records. -/
def codec : Codec RetryPolicy := Record.codec "RetryPolicy" fields standard

end RetryPolicy

end Swarmkeeper.Service
