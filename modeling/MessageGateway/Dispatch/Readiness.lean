import MessageGateway.Config
import MessageGateway.Dispatch.Error
import MessageGateway.Program

/-!
# The readiness gate

A session may be logged in and still lack what it needs to encrypt. A send looks at it again and
again until it is ready or the time is up. When the session has not become ready for a while, the
instance shows presence once, which makes the network hand out what is missing; whether that
succeeds does not matter.

## Main definitions

* `DispatchConfig.looks`: how many looks fit into the wait
* `awaitReady c i`: the gate before a send for the instance `i`
-/

namespace MessageGateway

/-- No wait has time for more looks than this: each pause but the last takes the whole interval. -/
def DispatchConfig.looks (c : DispatchConfig) : Nat :=
  c.readyTimeout / max c.pollInterval 1 + 2

open Program

/-- Looks at the session at most `looks` times; the wait began at `start`, and `shown` tells whether
the instance has shown presence. The answer is whether the session became ready. -/
def lookUntilReady (c : DispatchConfig) (i : InstanceId) (start : Nat) :
    (looks : Nat) → (shown : Bool) → Program Bool
  | 0, _ => pure false
  | looks + 1, shown => do
    if ← sessionReady i then
      return true
    let now ← elapsed
    if start + c.readyTimeout ≤ now then
      return false
    let due := !shown && start + c.presenceAfter ≤ now
    if due then
      let _ ← bestEffort (showPresence i)
    sleepUntil (min (now + c.pollInterval) (start + c.readyTimeout))
    lookUntilReady c i start looks (shown || due)

/-- Waits until the session of the instance is ready, and fails when the time is up. -/
def awaitReady (c : DispatchConfig) (i : InstanceId) : Program (Except DispatchError Unit) := do
  let start ← elapsed
  if ← lookUntilReady c i start c.looks false then
    return .ok ()
  else
    return .error (.sessionUnavailable i)

end MessageGateway
