import MessageGateway.Config
import MessageGateway.Json.Parser
import MessageGateway.JsonForm.HistorySync
import MessageGateway.Program

/-!
# The coordinator of history syncs

Each instance runs at most one cycle at a time. A cycle takes a fixed time and then completes; a
new one takes the place of one that runs. The instance record tells which cycle is the current
one, and a cycle that is no longer current writes nothing.

## Main definitions

* `startCycle`, `finalizeCycle`, `cancelCycle`, `activeCycle`, `isRunning`: the operations on cycles
* `cycleRound`: what the task of a cycle does
* `recordNotification`, `processPending`, `purge`: the operations on announcements
* `acknowledge`: the processing that reads an announcement and fetches nothing
-/

namespace MessageGateway

open Program

/-! ## Handles -/

/-- Puts a handle into the registry and fires the token of the one it displaces. -/
def replaceHandle (i : InstanceId) (h : CycleHandle) : Program (Option CycleHandle) := do
  let previous ← mountHandle i h
  if let some p := previous then
    fireToken p.token
  return previous

/-- Takes an instance's handle out of the registry and fires its token. -/
def releaseHandle (i : InstanceId) : Program (Option CycleHandle) := do
  let removed ← removeHandle i
  if let some h := removed then
    fireToken h.token
  return removed

/-- The same, but only when the handle is that of the cycle `c`. -/
def releaseCycle (i : InstanceId) (c : CycleId) : Program (Option CycleHandle) := do
  let removed ← removeCycle i c
  if let some h := removed then
    fireToken h.token
  return removed

/-! ## Cycles -/

/-- Begins a new cycle, in the place of one that runs. -/
def startCycle (i : InstanceId) : Program (Except SyncError CycleId) :=
  ExceptT.run do
    let cycle ← newCycleId
    let r ← orFail .store (findInstance i)
    let time ← now
    let _ ← orFail .store (updateInstance (r.beginSync cycle time))
    let handle : CycleHandle := ⟨cycle, ← issueToken⟩
    let _ ← replaceHandle i handle
    let _ ← spawn (.cycle i handle)
    return cycle

/-- Writes the status of an instance's history sync and stops its cycle. -/
def finalizeCycle (i : InstanceId) (status : SyncStatus) : Program (Except SyncError Unit) :=
  ExceptT.run do
    let r ← orFail .store (findInstance i)
    if r.sync ≠ status then
      let time ← now
      let _ ← orFail .store (updateInstance (r.finishSync status time))
    let _ ← releaseHandle i

/-- Stops an instance's cycle and leaves its record alone; the answer is whether there was one. -/
def cancelCycle (i : InstanceId) : Program Bool := do
  return (← releaseHandle i).isSome

/-- The cycle that runs on an instance. -/
def activeCycle (i : InstanceId) : Program (Option CycleId) := do
  match ← findHandle i with
  | none => return none
  | some h => return if ← anyFired [h.token] then none else some h.cycle

/-- Whether a cycle runs on an instance. -/
def isRunning (i : InstanceId) : Program Bool := do
  return (← activeCycle i).isSome

/-- What the task of a cycle does: it waits, completes the cycle if it is still the current one, and
gives its handle back. -/
def cycleRound (c : HistorySyncConfig) (i : InstanceId) (h : CycleHandle) : Program Unit := do
  let time ← elapsed
  match ← pause (some (time + c.completionDelay)) [h.token] false with
  | .stopped => pure ()
  | _ =>
    match ← finishCycle i h.cycle .completed (← now) with
    | .ok (some _) => let _ ← releaseCycle i h.cycle
    | _ => pure ()

/-! ## Announcements -/

/-- Stores an announcement under the instance's current cycle. -/
def recordNotification (i : InstanceId) (payload : List UInt8) :
    Program (Except SyncError SyncPayload) :=
  ExceptT.run do
    let r ← orFail .store (findInstance i)
    let id ← newPayloadId
    let time ← now
    orFail .store (createPayload
      (.make id i SyncPayload.notificationType payload r.cycle time))

/-- Processes the payloads in turn and marks those that were accepted; the answer is how many. -/
def processAll : List SyncPayload → ExceptT SyncError Program Nat
  | [] => pure 0
  | p :: ps => do
    match ← ExceptT.lift (processPayload p) with
    | .error _ => processAll ps
    | .ok () =>
      let time ← now
      orFail .store (markPayload p.id .done (some time))
      return (← processAll ps) + 1

/-- Processes what was announced in the instance's current cycle, or at any time if it never had a
cycle. -/
def processPending (i : InstanceId) : Program (Except SyncError Nat) :=
  ExceptT.run do
    let r ← orFail .store (findInstance i)
    processAll (← orFail .store (pendingPayloads i r.cycle))

/-- Forgets everything announced to an instance. -/
def purge (i : InstanceId) : Program (Except SyncError Unit) :=
  ExceptT.run (orFail .store (purgePayloads i))

/-- The processing that only reads an announcement: it accepts those that can be read. -/
def acknowledge (p : SyncPayload) : Except SyncError Unit :=
  match (Json.readBytes? p.payload).bind SyncNotification.ofJson? with
  | some _ => .ok ()
  | none => .error (.processor ("decode " ++ p.id.display))

end MessageGateway
