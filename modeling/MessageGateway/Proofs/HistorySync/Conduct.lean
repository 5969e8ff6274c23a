import MessageGateway.Proofs.Dispatch.Footprint
import MessageGateway.Proofs.HistorySync.Footprint
import MessageGateway.Proofs.HistorySync.History

/-!
# How operations treat instance records

Three operations overwrite the record of an instance: the start of a cycle, its end by a caller, and
a send that finds its session gone. Each of them reads the whole record, changes its own columns and
writes the whole record back, in calls of their own. The task of a cycle writes the end of its
cycle by a single call.

## Main definitions

* `HistorySync.Operation`: the operations on the record of an instance
* `HistorySync.Makes`: what an operation makes of the record that it has read
* `HistorySync.MayStart`, `HistorySync.Started`: the calls of a start, and what it leaves behind

## Main results

* `HistorySync.ensures_start`: a start makes each of its calls where it may
* `HistorySync.ensures_makes`: what an operation writes back is what it makes of the record that it
  has read last
-/

namespace MessageGateway

open Program Setting

namespace Exchange

/-- The name that was drawn for a cycle. -/
def drawn? : Exchange → Option CycleId
  | ⟨.newCycleId, c⟩ => some c
  | _ => none

/-- The handle that was displaced by a new one. -/
def displaced? : Exchange → Option CycleHandle
  | ⟨.mountHandle _ _, h⟩ => h
  | _ => none

/-- The record that is read bears the name under which it was looked up. -/
def IsNamed : Exchange → Prop
  | ⟨.findInstance i, .ok r⟩ => r.id = i
  | _ => True

end Exchange

namespace HistorySync

/-- An operation on the record of an instance. -/
inductive Operation where
  /-- A cycle is started. -/
  | start (i : InstanceId)
  /-- A caller ends the cycle. -/
  | finalize (i : InstanceId) (status : SyncStatus)
  /-- A message is sent. -/
  | send (input : SendInput)
  /-- The task of a cycle. -/
  | cycle (i : InstanceId) (h : CycleHandle)

/-- The result of an operation. -/
inductive Outcome where
  /-- Of the start of a cycle. -/
  | started (r : Except SyncError CycleId)
  /-- Of its end by a caller. -/
  | finalized (r : Except SyncError Unit)
  /-- Of a send. -/
  | sent (r : Except SendFailure Message)
  /-- The task of a cycle is over. -/
  | cycled

/-- The program of an operation. -/
def Operation.program (c : GatewayConfig) : Operation → Program Outcome
  | .start i => .started <$> startCycle i
  | .finalize i status => .finalized <$> finalizeCycle i status
  | .send input => .sent <$> MessageGateway.send c input
  | .cycle i h => (fun _ => .cycled) <$> cycleRound c.historySync i h

/-- What an operation whose calls so far are `t` makes of a record. -/
inductive Makes (t : Trace) : Operation → Instance → Instance → Prop
  | start {i : InstanceId} {r : Instance} {c : CycleId}
      (drawn : t.findSome? Exchange.drawn? = some c) (time : Timestamp) : Makes t (.start i) r (r.beginSync c time)
  | finalize {i : InstanceId} {status : SyncStatus} {r : Instance} (time : Timestamp) :
      Makes t (.finalize i status) r (r.finishSync status time)
  | downgrade {input : SendInput} {r : Instance} :
      Makes t (.send input) r { r with status := .error }

/-- A call may overwrite an instance only with what the operation makes of the record that it has
read last. -/
def MayMake (op : Operation) (c : Call) (t : Trace) : Prop :=
  ∀ r, c = .updateInstance r →
    ∃ r₀, t.findSome? Exchange.read? = some r₀ ∧ Makes t op r₀ r

/-! ## The start of a cycle -/

/-- The calls of the start of a cycle on the instance `i`, after the calls `t`. -/
def MayStart (i : InstanceId) : Call → Trace → Prop
  | .newCycleId, t => t = []
  | .updateInstance r, t => ∃ r₀ c time, t.findSome? Exchange.read? = some r₀ ∧ r₀.id = i ∧
      t.findSome? Exchange.drawn? = some c ∧ r = r₀.beginSync c time
  | .mountHandle j h, t => j = i ∧ t.findSome? (Exchange.mounted? i) = none ∧
      t.findSome? Exchange.drawn? = some h.cycle ∧ t.findSome? Exchange.issued? = some h.token ∧
      ∃ r, t.findSome? (Exchange.updated? i) = some r ∧ r.cycle = some h.cycle
  | .fireToken k, t => ∃ h, t.findSome? Exchange.displaced? = some h ∧ h.token = k
  | .finishCycle .., _ | .removeHandle _, _ | .removeCycle .., _ => False
  | _, _ => True

/-- The token of every handle that was displaced has been fired. -/
def Cleared (t : Trace) : Prop :=
  ∀ x ∈ t, ∀ h, x.displaced? = some h → ∃ y ∈ t, y.fired? = some h.token

/-- What the start of a cycle leaves behind when it is done: it has fired the token of the handle
that it has displaced, and unless it has failed it has mounted one of its own. -/
structure Started (i : InstanceId) (res : Except SyncError CycleId) (t : Trace) : Prop where
  cleared : Cleared t
  mounted : ∀ c, res = .ok c → t.findSome? Exchange.drawn? = some c ∧
    ∃ h, t.findSome? (Exchange.mounted? i) = some (some h)

variable {i : InstanceId} {t : Trace}

theorem cleared_nil : Cleared [] :=
  List.forall_mem_nil _

theorem Cleared.cons {x : Exchange} (h : Cleared t) (other : x.displaced? = none) :
    Cleared (x :: t) := by
  intro y hy h' displaced
  rcases List.mem_cons.1 hy with rfl | hy
  · rw [other] at displaced
    cases displaced
  · obtain ⟨z, hz, fired⟩ := h y hy h' displaced
    exact ⟨z, List.mem_cons_of_mem _ hz, fired⟩

/-- A handle was mounted, and the token of the one that it has displaced was fired. -/
def replaced (i : InstanceId) (h : CycleHandle) (prev : Option CycleHandle) (t : Trace) : Trace :=
  (prev.toList.map fun h' => ⟨.fireToken h'.token, ()⟩) ++ ⟨.mountHandle i h, prev⟩ :: t

theorem Cleared.replaced (cleared : Cleared t) (h : CycleHandle) (prev : Option CycleHandle) :
    Cleared (replaced i h prev t) := by
  cases prev with
  | none => exact cleared.cons rfl
  | some h' =>
    intro x hx h'' displaced
    rcases List.mem_cons.1 hx with rfl | hx
    · cases displaced
    · rcases List.mem_cons.1 hx with rfl | hx
      · cases displaced
        exact ⟨_, List.mem_cons_self, rfl⟩
      · obtain ⟨y, hy, fired⟩ := cleared x hx h'' displaced
        exact ⟨y, List.mem_cons_of_mem _ (List.mem_cons_of_mem _ hy), fired⟩

theorem mounted?_replaced (h : CycleHandle) (prev : Option CycleHandle) :
    (replaced i h prev t).findSome? (Exchange.mounted? i) = some (some h) := by
  have mounted : Exchange.mounted? i ⟨.mountHandle i h, prev⟩ = some (some h) := if_pos rfl
  cases prev with
  | none => exact (List.findSome?_cons ..).trans (by rw [mounted])
  | some h' =>
    exact (List.findSome?_cons_of_isNone (by rfl)).trans
      ((List.findSome?_cons ..).trans (by rw [mounted]))

theorem drawn?_replaced (h : CycleHandle) (prev : Option CycleHandle) :
    (replaced i h prev t).findSome? Exchange.drawn? = t.findSome? Exchange.drawn? := by
  cases prev <;> rfl

theorem ensures_replaceHandle (h : CycleHandle) (may : MayStart i (.mountHandle i h) t) :
    (traced Exchange.IsNamed (MayStart i)).Ensures
      (fun _ u => ∃ prev, u = replaced i h prev t)
      (replaceHandle i h) t := by
  refine (ensures_asked may).bind fun prev u _ hQ => ?_
  obtain ⟨rfl, -⟩ := hQ u rfl
  cases prev with
  | none => exact ensures_done ⟨none, rfl⟩
  | some h' =>
    have fire : (traced Exchange.IsNamed (MayStart i)).Ensures _ (fireToken h'.token)
        (⟨.mountHandle i h, some h'⟩ :: t) :=
      ensures_asked ⟨h', rfl, rfl⟩
    refine fire.bind fun _ u _ hQ => ?_
    obtain ⟨rfl, -⟩ := hQ u rfl
    exact ensures_done ⟨some h', rfl⟩

/-- **A start makes each of its calls where it may.** -/
theorem ensures_start (i : InstanceId) : (traced Exchange.IsNamed (MayStart i)).Ensures
    (Started i) (startCycle i) [] := by
  have failed {e : SyncError} {u : Trace} (cleared : Cleared u) : Started i (.error e) u :=
    ⟨cleared, fun c eq => by cases eq⟩
  have name : (traced Exchange.IsNamed (MayStart i)).Ensures _ newCycleId [] := ensures_asked rfl
  refine name.bindLift fun c u _ hQ => ?_
  obtain ⟨rfl, -⟩ := hQ u rfl
  have cleared : Cleared [⟨.newCycleId, c⟩] := cleared_nil.cons rfl
  have find : (traced Exchange.IsNamed (MayStart i)).Ensures _ (findInstance i)
      [⟨.newCycleId, c⟩] := ensures_asked trivial
  refine find.bindOrFail (fun r u _ hQ => ?_) fun e u _ hQ => ?_
  · obtain ⟨rfl, named⟩ := hQ u rfl
    have clock : (traced Exchange.IsNamed (MayStart i)).Ensures _ now
        [⟨.findInstance i, .ok r⟩, ⟨.newCycleId, c⟩] := ensures_asked trivial
    refine clock.bindLift fun time u _ hQ => ?_
    obtain ⟨rfl, -⟩ := hQ u rfl
    have cleared : Cleared [⟨.now, time⟩, ⟨.findInstance i, .ok r⟩, ⟨.newCycleId, c⟩] :=
      (cleared.cons rfl).cons rfl
    have update : (traced Exchange.IsNamed (MayStart i)).Ensures _
        (updateInstance (r.beginSync c time))
        [⟨.now, time⟩, ⟨.findInstance i, .ok r⟩, ⟨.newCycleId, c⟩] :=
      ensures_asked ⟨r, c, time, rfl, named, rfl, rfl⟩
    refine update.bindOrFail (fun r' u _ hQ => ?_) fun e u _ hQ => ?_
    · obtain ⟨rfl, -⟩ := hQ u rfl
      have issue : (traced Exchange.IsNamed (MayStart i)).Ensures _ issueToken
          [⟨.updateInstance (r.beginSync c time), .ok r'⟩, ⟨.now, time⟩,
            ⟨.findInstance i, .ok r⟩, ⟨.newCycleId, c⟩] := ensures_asked trivial
      refine issue.bindLift fun token u _ hQ => ?_
      obtain ⟨rfl, -⟩ := hQ u rfl
      have cleared : Cleared [⟨.issueToken, token⟩,
          ⟨.updateInstance (r.beginSync c time), .ok r'⟩, ⟨.now, time⟩,
          ⟨.findInstance i, .ok r⟩, ⟨.newCycleId, c⟩] := (cleared.cons rfl).cons rfl
      have updated : List.findSome? (Exchange.updated? i)
          [⟨.issueToken, token⟩, ⟨.updateInstance (r.beginSync c time), .ok r'⟩, ⟨.now, time⟩,
            ⟨.findInstance i, .ok r⟩, ⟨.newCycleId, c⟩] = some (r.beginSync c time) := by
        have update : Exchange.updated? i ⟨.updateInstance (r.beginSync c time), .ok r'⟩ =
          some (r.beginSync c time) := if_pos named
        rw [List.findSome?_cons_of_isNone (by rfl), List.findSome?_cons, update]
      have replace := ensures_replaceHandle ⟨c, token⟩ ⟨rfl, rfl, rfl, rfl, _, updated, rfl⟩
      refine replace.bindLift fun _ u _ hQ => ?_
      obtain ⟨prev, rfl⟩ := hQ u rfl
      refine Ensures.bindLift (ensures_asked trivial) fun task u _ hQ => ?_
      obtain ⟨rfl, -⟩ := hQ u rfl
      refine ensures_done ⟨(cleared.replaced _ prev).cons rfl, ?_⟩
      rintro _ ⟨⟩
      refine ⟨?_, ⟨c, token⟩, ?_⟩
      · exact (List.findSome?_cons_of_isNone (by rfl)).trans (drawn?_replaced _ prev)
      · exact (List.findSome?_cons_of_isNone (by rfl)).trans (mounted?_replaced _ prev)
    · obtain ⟨rfl, -⟩ := hQ
      exact failed (cleared.cons rfl)
  · obtain ⟨rfl, -⟩ := hQ
    exact failed (cleared.cons rfl)

/-! ## What is written back -/

variable {op : Operation}

/-- Calls that overwrite no instance may be made anywhere. -/
theorem ensures_aside {α : Type} {p : Program α}
    (only : p.Only fun c => ∀ r, c ≠ .updateInstance r) :
    (traced Exchange.IsNamed (MayMake op)).Ensures (fun _ _ => True) p t :=
  ensures_kept only (fun _ _ other _ r eq => absurd eq (other r)) (fun _ _ _ _ _ => trivial) trivial

theorem ensures_finalize (i : InstanceId) (status : SyncStatus) :
    (traced Exchange.IsNamed (MayMake (.finalize i status))).Ensures (fun _ _ => True)
      (finalizeCycle i status) t := by
  have release (u : Trace) : (traced Exchange.IsNamed (MayMake (.finalize i status))).Ensures
      (fun _ _ => True)
      (do let _ ← releaseHandle i : ExceptT SyncError Program Unit).run u := by
    exact ensures_aside (Only.bindExcept
      (Only.map (releaseHandle_only i (by simp) (by simp))) fun _ => only_pure _)
  have find : (traced Exchange.IsNamed (MayMake (.finalize i status))).Ensures _
      (findInstance i) t := ensures_asked (fun r eq => by cases eq)
  refine find.bindOrFail (fun r u _ hQ => ?_) fun _ _ _ _ => trivial
  obtain ⟨rfl, -⟩ := hQ u rfl
  dsimp only
  split
  · have clock : (traced Exchange.IsNamed (MayMake (.finalize i status))).Ensures _ now
        (⟨.findInstance i, .ok r⟩ :: t) := ensures_asked (fun r eq => by cases eq)
    refine clock.bindLift fun time u _ hQ => ?_
    obtain ⟨rfl, -⟩ := hQ u rfl
    have may : MayMake (.finalize i status) (.updateInstance (r.finishSync status time))
        (⟨.now, time⟩ :: ⟨.findInstance i, .ok r⟩ :: t) := by
      rintro _ ⟨⟩
      exact ⟨r, rfl, .finalize time⟩
    have update : (traced Exchange.IsNamed (MayMake (.finalize i status))).Ensures _
        (updateInstance (r.finishSync status time)) _ := ensures_asked may
    exact update.bindOrFail (fun _ u _ _ => release u) fun _ _ _ _ => trivial
  · exact release _

theorem ensures_downgrade (input : SendInput) :
    (traced Exchange.IsNamed (MayMake (.send input))).Ensures (fun _ _ => True)
      (Dispatch.downgrade input.owner) t := by
  have find : (traced Exchange.IsNamed (MayMake (.send input))).Ensures _
      (findInstance input.owner) t := ensures_asked (fun r eq => by cases eq)
  refine find.bind fun r u _ hQ => ?_
  obtain ⟨rfl, -⟩ := hQ u rfl
  cases r with
  | error e => exact ensures_done trivial
  | ok r =>
    have may : MayMake (.send input) (.updateInstance { r with status := .error })
        (⟨.findInstance input.owner, .ok r⟩ :: t) := by
      rintro _ ⟨⟩
      exact ⟨r, rfl, .downgrade⟩
    have update : (traced Exchange.IsNamed (MayMake (.send input))).Ensures _
        (updateInstance { r with status := .error }) _ := ensures_asked may
    exact update.bindBestEffort fun _ _ _ _ => ensures_done trivial

theorem ensures_checkSession (input : SendInput) :
    (traced Exchange.IsNamed (MayMake (.send input))).Ensures (fun _ _ => True)
      (Dispatch.checkSession input.owner).run t := by
  have lost (u : Trace) : (traced Exchange.IsNamed (MayMake (.send input))).Ensures
      (fun _ _ => True) (do
        Dispatch.downgrade input.owner
        throw (.of (.notConnected input.owner)) : ExceptT SendFailure Program Unit).run u :=
    (ensures_downgrade input).bindLift fun _ _ _ _ => ensures_done trivial
  have opened : (traced Exchange.IsNamed (MayMake (.send input))).Ensures (fun _ _ => True)
      (openSession input.owner) t := ensures_aside (only_request (by simp))
  refine opened.bindLift fun session u _ _ => ?_
  cases session with
  | ok session =>
    dsimp only
    split
    · exact ensures_done trivial
    · exact lost u
  | error e => exact lost u

theorem ne_updateInstance_of_isPreparation {c : Call} (h : c.isPreparation = true) (r : Instance) :
    c ≠ .updateInstance r := by
  rintro rfl
  cases h

/-- Of the calls of a send only those of a downgrade overwrite the instance. -/
theorem ensures_send (c : GatewayConfig) (input : SendInput) :
    (traced Exchange.IsNamed (MayMake (.send input))).Ensures (fun _ _ => True)
      (MessageGateway.send c input) t := by
  unfold MessageGateway.send
  split
  · exact ensures_done trivial
  · have existing : (Dispatch.existing input.id).run.Only fun c => ∀ r, c ≠ .updateInstance r :=
      Dispatch.existing_only (by simp)
    refine (ensures_aside existing).bindExcept (fun known u _ _ => ?_) fun _ _ _ _ => trivial
    split
    · exact ensures_done trivial
    · unfold Dispatch.proceed
      have active : (Dispatch.checkInstance input.owner).run.Only
          fun c => ∀ r, c ≠ .updateInstance r := Dispatch.checkInstance_only (by simp)
      refine (ensures_aside active).bindExcept (fun _ u _ _ => ?_) fun _ _ _ _ => trivial
      refine (ensures_checkSession input).bindExcept (fun _ u _ _ => ?_) fun _ _ _ _ => trivial
      refine ensures_aside ?_
      refine Only.bindExcept ((Dispatch.prepare_only c input).mono fun _ =>
        ne_updateInstance_of_isPreparation) fun (address, outbound) => ?_
      refine Only.bindExcept (Dispatch.store_only (by simp) (by simp) (by simp) (by simp))
        fun m => ?_
      exact Dispatch.deliver_only (by simp) (by simp) (by simp)

/-- **What an operation writes back** is what it makes of the record that it has read last. -/
theorem ensures_makes (c : GatewayConfig) (op : Operation) :
    (traced Exchange.IsNamed (MayMake op)).Ensures (fun _ _ => True) (op.program c) [] := by
  cases op with
  | start i =>
    have started : (traced Exchange.IsNamed (MayMake (.start i))).Ensures (Started i)
        (startCycle i) [] := by
      refine (ensures_start i).allow ?_
      rintro c t may r rfl
      obtain ⟨r₀, k, time, read, -, drawn, rfl⟩ := may
      exact ⟨r₀, read, .start drawn time⟩
    exact started.map fun _ _ _ _ => trivial
  | finalize i status => exact (ensures_finalize i status).map fun _ _ _ _ => trivial
  | send input => exact (ensures_send c input).map fun _ _ _ _ => trivial
  | cycle i h =>
    have only : (cycleRound c.historySync i h).Only fun c => ∀ r, c ≠ .updateInstance r :=
      cycleRound_only _ i h (by simp) (by simp) (by simp) (by simp) (by simp) (by simp)
    exact ensures_aside (Only.map only)

end HistorySync

end MessageGateway
