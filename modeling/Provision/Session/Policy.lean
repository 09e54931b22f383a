import Provision.Duration

/-!
Contract: how long to wait for a server that reloads.

Owns:
- the policy with its defaults, sixty seconds and one second;
- the number of state reads that the policy allows.

Does not own: the waiting itself.
-/

namespace Provision

/-- How long to wait in all, and how long between two reads of the state. -/
structure ReloadPolicy where
  timeout : Duration := .ofSeconds 60
  pollInterval : Duration := .ofSeconds 1
deriving DecidableEq, Repr

/-- The greatest number of state reads of any policy. -/
def greatestPolls : Nat := UInt32.size - 1

/-- The number of state reads that fit into the timeout, counted in whole
milliseconds; at least one is always made. -/
def ReloadPolicy.maxPolls (policy : ReloadPolicy) : Nat :=
  max 1 (min greatestPolls
    (policy.timeout.milliseconds / max 1 policy.pollInterval.milliseconds))

end Provision
