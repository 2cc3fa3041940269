import ServiceLocation.Span

/-!
**How patiently a query is repeated.**

* `maxAttempts`: one attempt and as many more as the policy allows, up to `2 ^ 32 - 1`;
* `attemptBudget`: the time one attempt may take: the time for one server, once for every server
  that may be asked.
-/

namespace ServiceLocation

/-- How long a query may take and how often it is repeated. -/
structure RetryPolicy where
  /-- The time that one server is given. -/
  queryTimeout : Span
  /-- How often a query is repeated after a transient failure. -/
  maxTryAgain : UInt32
  deriving DecidableEq

namespace RetryPolicy

/-- Five seconds, and three repetitions. -/
def standard : RetryPolicy := { queryTimeout := .ofParts 5 0, maxTryAgain := 3 }

/-- The number of attempts. -/
def maxAttempts (policy : RetryPolicy) : Nat := min (policy.maxTryAgain.toNat + 1) (UInt32.size - 1)

/-- How many servers get their time when `serverCount` of them are listed: at least one, and no more than
the largest number of 32 bits. -/
def rounds (serverCount : Nat) : UInt32 := .ofNat (min (max serverCount 1) (UInt32.size - 1))

/-- The time one attempt may take when that many servers are listed. -/
def attemptBudget (policy : RetryPolicy) (serverCount : Nat) : Span :=
  policy.queryTimeout.times (rounds serverCount)

/-- There is always an attempt. -/
theorem maxAttempts_pos (policy : RetryPolicy) : 0 < policy.maxAttempts :=
  Nat.lt_min.2 ⟨Nat.succ_pos _, by decide⟩

end RetryPolicy

end ServiceLocation
