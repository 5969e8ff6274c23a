import MessageGateway.HistorySync.Coordinator
import MessageGateway.Proofs.Setting

/-!
# The calls of the coordinator

Which calls each operation of the coordinator may come to, whatever it is answered. A handle that
is taken out of the registry, for whatever reason, costs one more call: its token is fired.

## Main definitions

* `HistorySync.cycleEnd`: the task of a cycle after its pause

## Main results

* `HistorySync.startCycle_only`, `HistorySync.finalizeCycle_only`, `HistorySync.cancelCycle_only`,
  `HistorySync.isRunning_only`: the calls of the operations on cycles
* `HistorySync.cycleRound_only`: the calls of the task of a cycle
* `HistorySync.recordNotification_only`, `HistorySync.processAll_only`: the calls by which an
  announcement is stored, and by which announcements are processed
-/

namespace MessageGateway

open Program

namespace HistorySync

variable {P : Call → Prop}

/-! ## Handles -/

/-- What was taken out of the registry is fired. -/
theorem fireRemoved_only {take : Program (Option CycleHandle)} (taken : take.Only P)
    (fire : ∀ k, P (.fireToken k)) :
    (do
      let removed ← take
      if let some h := removed then
        fireToken h.token
      return removed : Program (Option CycleHandle)).Only P := by
  refine Only.bind taken fun removed => ?_
  cases removed with
  | none => exact only_pure _
  | some h => exact Only.bind (only_request (fire h.token)) fun _ => only_pure _

theorem replaceHandle_only (i : InstanceId) (h : CycleHandle) (mount : P (.mountHandle i h))
    (fire : ∀ k, P (.fireToken k)) : (replaceHandle i h).Only P :=
  fireRemoved_only (only_request mount) fire

theorem releaseHandle_only (i : InstanceId) (remove : P (.removeHandle i))
    (fire : ∀ k, P (.fireToken k)) : (releaseHandle i).Only P :=
  fireRemoved_only (only_request remove) fire

theorem releaseCycle_only (i : InstanceId) (k : CycleId) (remove : P (.removeCycle i k))
    (fire : ∀ k, P (.fireToken k)) : (releaseCycle i k).Only P :=
  fireRemoved_only (only_request remove) fire

/-! ## Cycles -/

theorem startCycle_only (i : InstanceId) (name : P .newCycleId) (find : P (.findInstance i))
    (clock : P .now) (update : ∀ r, P (.updateInstance r)) (token : P .issueToken)
    (mount : ∀ h, P (.mountHandle i h)) (fire : ∀ k, P (.fireToken k))
    (spawn : ∀ h, P (.spawn (.cycle i h))) : (startCycle i).Only P := by
  refine Only.bindExcept (Only.map (only_request name)) fun cycle => ?_
  refine Only.bindExcept (Only.orFail (only_request find)) fun r => ?_
  refine Only.bindExcept (Only.map (only_request clock)) fun time => ?_
  refine Only.bindExcept (Only.orFail (only_request (update _))) fun _ => ?_
  refine Only.bindExcept (Only.map (only_request token)) fun token => ?_
  refine Only.bindExcept (Only.map (replaceHandle_only i _ (mount _) fire)) fun _ => ?_
  exact Only.bindExcept (Only.map (only_request (spawn _))) fun _ => only_pure _

theorem finalizeCycle_only (i : InstanceId) (status : SyncStatus) (find : P (.findInstance i))
    (clock : P .now) (update : ∀ r, P (.updateInstance r)) (remove : P (.removeHandle i))
    (fire : ∀ k, P (.fireToken k)) : (finalizeCycle i status).Only P := by
  have release : (do let _ ← releaseHandle i : ExceptT SyncError Program Unit).run.Only P :=
    Only.bindExcept (Only.map (releaseHandle_only i remove fire)) fun _ => only_pure _
  refine Only.bindExcept (Only.orFail (only_request find)) fun r => ?_
  dsimp only
  split
  · refine Only.bindExcept (Only.map (only_request clock)) fun time => ?_
    exact Only.bindExcept (Only.orFail (only_request (update _))) fun _ => release
  · exact release

theorem cancelCycle_only (i : InstanceId) (remove : P (.removeHandle i))
    (fire : ∀ k, P (.fireToken k)) : (cancelCycle i).Only P :=
  Only.bind (releaseHandle_only i remove fire) fun _ => only_pure _

theorem activeCycle_only (i : InstanceId) (find : P (.findHandle i))
    (fired : ∀ ts, P (.anyFired ts)) : (activeCycle i).Only P := by
  refine Only.bind (only_request find) fun held => ?_
  cases held with
  | none => exact only_pure _
  | some h => exact Only.bind (only_request (fired _)) fun _ => only_pure _

theorem isRunning_only (i : InstanceId) (find : P (.findHandle i))
    (fired : ∀ ts, P (.anyFired ts)) : (isRunning i).Only P :=
  Only.bind (activeCycle_only i find fired) fun _ => only_pure _

/-! ## The task of a cycle -/

/-- What the task of a cycle does when its pause is over. -/
def cycleEnd (i : InstanceId) (h : CycleHandle) : Wake → Program Unit
  | .stopped => pure ()
  | _ => do
    match ← finishCycle i h.cycle .completed (← now) with
    | .ok (some _) => let _ ← releaseCycle i h.cycle
    | _ => pure ()

theorem cycleRound_eq (c : HistorySyncConfig) (i : InstanceId) (h : CycleHandle) :
    cycleRound c i h = (do
      let time ← elapsed
      let wake ← pause (some (time + c.completionDelay)) [h.token] false
      cycleEnd i h wake) := rfl

theorem cycleEnd_only (i : InstanceId) (h : CycleHandle) (wake : Wake) (date : P .now)
    (finish : ∀ time, P (.finishCycle i h.cycle .completed time))
    (remove : P (.removeCycle i h.cycle)) (fire : ∀ k, P (.fireToken k)) :
    (cycleEnd i h wake).Only P := by
  cases wake with
  | stopped => exact only_pure _
  | notified | elapsed =>
    refine Only.bind (only_request date) fun time => ?_
    refine Only.bind (only_request (finish time)) fun finished => ?_
    split
    · exact Only.bind (releaseCycle_only i h.cycle remove fire) fun _ => only_pure _
    · exact only_pure _

theorem cycleRound_only (c : HistorySyncConfig) (i : InstanceId) (h : CycleHandle)
    (clock : P .elapsed) (pause : ∀ deadline, P (.pause deadline [h.token] false))
    (date : P .now) (finish : ∀ time, P (.finishCycle i h.cycle .completed time))
    (remove : P (.removeCycle i h.cycle)) (fire : ∀ k, P (.fireToken k)) :
    (cycleRound c i h).Only P := by
  rw [cycleRound_eq]
  refine Only.bind (only_request clock) fun time => ?_
  refine Only.bind (only_request (pause _)) fun wake => ?_
  exact cycleEnd_only i h wake date finish remove fire

/-! ## Announcements -/

theorem recordNotification_only (i : InstanceId) (payload : List UInt8)
    (find : P (.findInstance i)) (name : P .newPayloadId) (clock : P .now)
    (create : ∀ p, P (.createPayload p)) : (recordNotification i payload).Only P := by
  refine Only.bindExcept (Only.orFail (only_request find)) fun r => ?_
  refine Only.bindExcept (Only.map (only_request name)) fun id => ?_
  refine Only.bindExcept (Only.map (only_request clock)) fun time => ?_
  exact Only.orFail (only_request (create _))

theorem processAll_only {ps : List SyncPayload} (process : ∀ p ∈ ps, P (.processPayload p))
    (clock : P .now) (mark : ∀ id time, P (.markPayload id .done (some time))) :
    (processAll ps).run.Only P := by
  induction ps with
  | nil => exact only_pure _
  | cons p ps ih =>
    obtain ⟨first, later⟩ := List.forall_mem_cons.1 process
    refine Only.bindExcept (Only.map (only_request first)) fun said => ?_
    cases said with
    | error e => exact ih later
    | ok _ =>
      refine Only.bindExcept (Only.map (only_request clock)) fun time => ?_
      refine Only.bindExcept (Only.orFail (only_request (mark _ _))) fun _ => ?_
      exact Only.bindExcept (ih later) fun _ => only_pure _

end HistorySync

end MessageGateway
