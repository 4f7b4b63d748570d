import ReminderDispatch.Duration
import ReminderDispatch.Number.Binary64

/-!
# Retry policy

How often a task is attempted, and how long it waits after a failed attempt. The delay grows by a
factor from attempt to attempt, is computed in double precision and never exceeds a day.
-/

namespace ReminderDispatch

/-- The length of a span in seconds, in double precision: the rounded whole seconds plus the
rounded fraction. -/
def Duration.toSeconds (span : Duration) : Binary64 :=
  (Binary64.ofNat span.wholeSeconds).add
    ((Binary64.ofNat span.subsecond).div (Binary64.ofNat 1000000000))

/-- The span of a number of seconds to the nearest nanosecond, if the number is not negative and
below `2 ^ 64` seconds. -/
def Duration.ofSeconds? (seconds : Binary64) : Option Duration :=
  match seconds.scaledNat? 1000000000 with
  | some nanos => if nanos < UInt64.size * 1000000000 then some ⟨nanos⟩ else none
  | none => none

/-- Bounded attempts with growing delays. -/
structure RetryPolicy where
  /-- The attempts allowed for one task, the first one included. -/
  maxAttempts : Nat
  /-- The delay after the first attempt. -/
  baseDelay : Duration
  /-- The factor between the delays of successive attempts. -/
  multiplier : Binary64
  deriving DecidableEq, Repr

namespace RetryPolicy

/-- No delay is longer than a day. -/
def maxDelay : Duration := .ofSeconds 86400

/-- The greatest exponent of the multiplier. -/
def maxExponent : Nat := 2147483647

/-- A policy that doubles its delays; at least one attempt is allowed. -/
def new (maxAttempts : Nat) (baseDelay : Duration) : RetryPolicy where
  maxAttempts := max maxAttempts 1
  baseDelay := baseDelay
  multiplier := .ofNat 2

/-- Five attempts, with two seconds after the first. -/
def default : RetryPolicy := new 5 (.ofSeconds 2)

/-- The delay after an attempt, counted from 1: the base delay times the multiplier for every
attempt after the first. -/
def nextDelay (policy : RetryPolicy) (attempt : Nat) : Duration :=
  let exponent := min (attempt - 1) maxExponent
  let seconds := policy.baseDelay.toSeconds.mul (policy.multiplier.pow exponent)
  min ((Duration.ofSeconds? seconds).getD maxDelay) maxDelay

/-- No attempt is left after this one. -/
def isExhausted (policy : RetryPolicy) (attempt : Nat) : Bool := policy.maxAttempts ≤ attempt

end RetryPolicy

end ReminderDispatch
