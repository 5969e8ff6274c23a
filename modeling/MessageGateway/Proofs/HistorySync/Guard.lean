import MessageGateway.Proofs.HistorySync.Replacement
import MessageGateway.Proofs.HistorySync.Starts

/-!
# Tasks of cycles that are no longer current

The task of a cycle waits, then completes its cycle if that is the stored one, and then releases its
handle if that is still in the registry. These are three calls, and before, between and after them
others may start and end cycles, and write the record of the instance in any way. A task that comes
too late changes nothing.

## Main definitions

* `HistorySync.Actor`: the operations on cycles, the tasks of cycles, and whoever else writes
  records
* `HistorySync.MayWork`: the calls of the task of a cycle
* `HistorySync.Guarded`: what a call of such a task may change

## Main results

* `HistorySync.ensures_cycleRound`: the task of a cycle makes each of its calls where it may
* `HistorySync.Run.spawned`: a task runs for a handle that was mounted
* `HistorySync.Run.mount_of_cycle`: a handle is known by its cycle
* `HistorySync.stale_worker_guard`: what the task of a cycle changes
-/

namespace MessageGateway

open Program Setting

/-- The call neither changes the registry nor fires a token, and it starts no task. -/
def Call.sparesHandles : Call → Bool
  | .mountHandle .. | .removeHandle _ | .removeCycle .. | .fireToken _ | .spawn _ => false
  | _ => true

namespace HistorySync

/-- Whoever has to do with cycles or with the records of instances. -/
inductive Actor where
  /-- A cycle is started. -/
  | start (i : InstanceId)
  /-- A cycle is cancelled. -/
  | cancel (i : InstanceId)
  /-- A caller ends the cycle. -/
  | finalize (i : InstanceId) (status : SyncStatus)
  /-- The task of a cycle. -/
  | worker (i : InstanceId) (h : CycleHandle)
  /-- Anybody else, who may write any record at any time. -/
  | writer (program : Program Unit) (foreign : program.Only fun c => c.sparesHandles = true)

/-- The program of an actor. -/
def Actor.program (c : GatewayConfig) : Actor → Program Unit
  | .start i => do let _ ← startCycle i
  | .cancel i => do let _ ← cancelCycle i
  | .finalize i status => do let _ ← finalizeCycle i status
  | .worker i h => cycleRound c.historySync i h
  | .writer program _ => program

/-! ## The calls of actors -/

/-- The task of a cycle completes this cycle, removes a handle of this cycle, and fires what it has
removed. -/
def MayWork (i : InstanceId) (h : CycleHandle) : Call → Trace → Prop
  | .finishCycle j k status _, _ => j = i ∧ k = h.cycle ∧ status = .completed
  | .removeCycle j k, _ => j = i ∧ k = h.cycle
  | .fireToken k, t => Dropped k t
  | .updateInstance _, _ | .mountHandle .., _ | .removeHandle _, _ | .spawn _, _ => False
  | _, _ => True

/-- Who only ends cycles mounts nothing, and fires what it has dropped. -/
def MayEnd : Call → Trace → Prop
  | .fireToken k, t => Dropped k t
  | .mountHandle .., _ | .spawn _, _ => False
  | _, _ => True

/-- A task is started for a handle that was mounted. -/
def MaySpawn : Call → Trace → Prop
  | .spawn a, t => ∃ i h, a = .cycle i h ∧ ∃ x ∈ t, x.mounts? = some (i, h)
  | _, _ => True

/-- The calls of an actor. -/
def MayAct : Actor → Call → Trace → Prop
  | .start i, c, t => MayStart i c t
  | .worker i h, c, t => MayWork i h c t
  | _, c, t => MayEnd c t

section

variable {H : Exchange → Prop} {t : Trace} {i : InstanceId} {h : CycleHandle}

theorem ensures_cycleRound (c : HistorySyncConfig) (i : InstanceId) (h : CycleHandle) :
    (traced H (MayWork i h)).Ensures (fun _ _ => True) (cycleRound c i h) [] := by
  have clock : (traced H (MayWork i h)).Ensures (fun _ u => Released u) elapsed [] :=
    ensures_call trivial fun _ _ => released_nil.cons rfl
  refine clock.bind fun time u _ hQ => ?_
  have released := hQ u rfl
  have wait : (traced H (MayWork i h)).Ensures (fun _ u => Released u)
      (pause (some (time + c.completionDelay)) [h.token] false) u :=
    ensures_call trivial fun _ _ => released.cons rfl
  refine wait.bind fun wake u _ hQ => ?_
  have released := hQ u rfl
  cases wake with
  | stopped => exact ensures_done trivial
  | notified | elapsed =>
    have date : (traced H (MayWork i h)).Ensures (fun _ u => Released u) now u :=
      ensures_call trivial fun _ _ => released.cons rfl
    refine date.bind fun time u _ hQ => ?_
    have released := hQ u rfl
    have finish : (traced H (MayWork i h)).Ensures (fun _ u => Released u)
        (finishCycle i h.cycle .completed time) u :=
      ensures_call ⟨rfl, rfl, rfl⟩ fun _ _ => released.cons rfl
    refine finish.bind fun finished u _ hQ => ?_
    have released := hQ u rfl
    split
    · have release : (traced H (MayWork i h)).Ensures _ (releaseCycle i h.cycle) u :=
        ensures_releaseCycle (fun _ _ => id) ⟨rfl, rfl⟩ released
      exact release.bind fun _ _ _ _ => ensures_done trivial
    · exact ensures_done trivial

theorem ensures_finalizeCycle (i : InstanceId) (status : SyncStatus) :
    (traced H MayEnd).Ensures (fun _ _ => True) (finalizeCycle i status) [] := by
  have release {u : Trace} (released : Released u) : (traced H MayEnd).Ensures (fun _ _ => True)
      (do let _ ← releaseHandle i : ExceptT SyncError Program Unit).run u :=
    (ensures_releaseHandle (fun _ _ => id) trivial released).bindLift
      fun _ _ _ _ => ensures_done trivial
  have find : (traced H MayEnd).Ensures (fun _ u => Released u) (findInstance i) [] :=
    ensures_call trivial fun _ _ => released_nil.cons rfl
  refine find.bindOrFail (fun r u _ hQ => ?_) fun _ _ _ _ => trivial
  have released := hQ u rfl
  dsimp only
  split
  · have clock : (traced H MayEnd).Ensures (fun _ u => Released u) now u :=
      ensures_call trivial fun _ _ => released.cons rfl
    refine clock.bindLift fun time u _ hQ => ?_
    have released := hQ u rfl
    have update : (traced H MayEnd).Ensures (fun _ u => Released u)
        (updateInstance (r.finishSync status time)) u :=
      ensures_call trivial fun _ _ => released.cons rfl
    exact update.bindOrFail (fun _ u _ hQ => release (hQ u rfl)) fun _ _ _ _ => trivial
  · exact release released

/-- A start has its task started after it has mounted the handle. -/
theorem ensures_start_spawns (i : InstanceId) :
    (traced H MaySpawn).Ensures (fun _ _ => True) (startCycle i) [] := by
  have aside (call : Call) (u : Trace) (may : MaySpawn call u) :
      (traced H MaySpawn).Ensures (fun _ _ => True) (request call) u :=
    ensures_call may fun _ _ => trivial
  refine (aside .newCycleId [] trivial).bindLift fun c u _ _ => ?_
  refine (aside (.findInstance i) u trivial).bindOrFail (fun r u _ _ => ?_) fun _ _ _ _ => trivial
  refine (aside .now u trivial).bindLift fun time u _ _ => ?_
  refine (aside (.updateInstance (r.beginSync c time)) u trivial).bindOrFail (fun _ u _ _ => ?_)
    fun _ _ _ _ => trivial
  refine (aside .issueToken u trivial).bindLift fun token u _ _ => ?_
  have mount : (traced H MaySpawn).Ensures
      (fun _ v => ∃ x ∈ v, x.mounts? = some (i, ⟨c, token⟩)) (mountHandle i ⟨c, token⟩) u :=
    ensures_call trivial fun _ _ => ⟨_, List.mem_cons_self, rfl⟩
  have replace : (traced H MaySpawn).Ensures
      (fun _ v => ∃ x ∈ v, x.mounts? = some (i, ⟨c, token⟩)) (replaceHandle i ⟨c, token⟩) u := by
    refine mount.bind fun prev v _ hQ => ?_
    obtain ⟨x, hx, mounts⟩ := hQ v rfl
    cases prev with
    | none => exact ensures_done ⟨x, hx, mounts⟩
    | some h =>
      have fire : (traced H MaySpawn).Ensures
          (fun _ w => ∃ x ∈ w, x.mounts? = some (i, ⟨c, token⟩)) (fireToken h.token) v :=
        ensures_call trivial fun _ _ => ⟨x, List.mem_cons_of_mem _ hx, mounts⟩
      exact fire.bind fun _ w _ hQ => ensures_done (hQ w rfl)
  refine replace.bindLift fun _ v _ hQ => ?_
  have spawn : (traced H MaySpawn).Ensures (fun _ _ => True) (spawn (.cycle i ⟨c, token⟩)) v :=
    ensures_call ⟨i, _, rfl, hQ v rfl⟩ fun _ _ => trivial
  exact spawn.bindLift fun _ _ _ _ => ensures_done trivial

theorem ensures_writer {program : Program Unit}
    (foreign : program.Only fun c => c.sparesHandles = true) :
    (traced H MayEnd).Ensures (fun _ _ => True) program [] := by
  refine ensures_kept foreign (fun c t spares _ => ?_) (fun _ _ _ _ _ => trivial) trivial
  cases c <;> first | exact trivial | cases spares

/-- **An actor makes each of its calls where it may.** -/
theorem ensures_actor (c : GatewayConfig) (actor : Actor) :
    (traced Exchange.IsNamed (MayAct actor)).Ensures (fun _ _ => True) (actor.program c) [] := by
  cases actor with
  | start i => exact Ensures.bind (ensures_start i) fun _ _ _ _ => ensures_done trivial
  | cancel i =>
    have release : (traced Exchange.IsNamed MayEnd).Ensures _ (releaseHandle i) [] :=
      ensures_releaseHandle (fun _ _ => id) trivial released_nil
    have cancel : (traced Exchange.IsNamed MayEnd).Ensures (fun _ _ => True) (cancelCycle i) [] :=
      release.bind fun _ _ _ _ => ensures_done trivial
    exact cancel.bind fun _ _ _ _ => ensures_done trivial
  | finalize i status =>
    exact (ensures_finalizeCycle i status).bind fun _ _ _ _ => ensures_done trivial
  | worker i h => exact ensures_cycleRound c.historySync i h
  | writer program foreign => exact ensures_writer foreign

end

/-! ## Actors at the same time -/

/-- Any actors on a memory, before the first call. -/
def acting (c : GatewayConfig) (actors : Party → Actor) (m : Memory) : System Unit :=
  System.start (fun p => (actors p).program c) m

variable {c : GatewayConfig} {actors : Party → Actor} {m m' : Memory} {σ : System Unit}
  {i j : InstanceId} {h h' : CycleHandle} {p : Party} {e e' : Entry}
  {log before before' : List Entry} {t : Trace}

theorem Run.lawful_acting (run : System.Run service (acting c actors m) σ) (p : Party) :
    Lawful (MayAct (actors p)) (System.trace p σ.log) :=
  (run.made p).lawful (ensures_actor c (actors p)) (Run.isNamed run)

theorem Run.mayAct (run : System.Run service (acting c actors m) σ) (he : e :: before <:+ σ.log) :
    MayAct (actors e.party) e.call (System.trace e.party before) :=
  System.may_of_lawful (Run.lawful_acting run e.party) he

/-- The next call of a party is one that it may make. -/
theorem Run.mayAct_next (run : System.Run service (acting c actors m) σ) {call : Call}
    {next : call.Answer → Program Unit} (left : σ.parties p = .ask call next) :
    MayAct (actors p) call (System.trace p σ.log) := by
  have made := run.made p
  rw [left] at made
  exact ((made.ensures (ensures_actor c (actors p)) (Run.isNamed run)).2 _ rfl).1

/-- **All actors keep handles as they should.** -/
theorem Run.keeps_acting (run : System.Run service (acting c actors m) σ) : Keeps σ.log := by
  intro e before he
  have may := Run.mayAct run he
  have lawful := (Run.lawful_acting run e.party).of_suffix
    (System.trace_suffix ((List.suffix_cons e before).trans he))
  obtain ⟨p, call, a⟩ := e
  dsimp only at may lawful ⊢
  cases actor : actors p with
  | start i =>
    rw [actor] at may lawful
    exact mayKeep_of_mayStart lawful may
  | worker | cancel | finalize | writer =>
    rw [actor] at may
    cases call with
    | mountHandle => exact may.elim
    | fireToken => exact may
    | _ => trivial

/-- A handle is mounted by a start that has drawn its cycle. -/
theorem Run.mounts_drawn (run : System.Run service (acting c actors m) σ)
    (he : e :: before <:+ σ.log) (mounts : e.exchange.mounts? = some (i, h)) :
    ∃ d ∈ σ.log, d.party = e.party ∧ d.exchange.drawn? = some h.cycle := by
  have may := Run.mayAct run he
  rw [call_of_mounts? mounts] at may
  cases actor : actors e.party with
  | start j =>
    rw [actor] at may
    obtain ⟨-, -, drawn, -⟩ := may
    obtain ⟨d, earlier, hd, party, drawn⟩ := System.exists_of_findSome? drawn
    have hd := hd.trans ((List.suffix_cons e before).trans he)
    exact ⟨d, hd.subset List.mem_cons_self, party, drawn⟩
  | worker | cancel | finalize | writer =>
    rw [actor] at may
    exact may.elim

/-- **A handle is known by its cycle.** -/
theorem Run.mount_of_cycle (run : System.Run service (acting c actors m) σ)
    (apart : DrawApart σ.log) (he : e :: before <:+ σ.log) (he' : e' :: before' <:+ σ.log)
    (mounts : e.exchange.mounts? = some (i, h)) (mounts' : e'.exchange.mounts? = some (j, h'))
    (same : h'.cycle = h.cycle) : e :: before = e' :: before' := by
  obtain ⟨d, hd, party, drawn⟩ := Run.mounts_drawn run he mounts
  obtain ⟨d', hd', party', drawn'⟩ := Run.mounts_drawn run he' mounts'
  have owner := apart d hd d' hd' (by rw [drawn]; rfl) (by rw [drawn, drawn', same])
  rw [party, party'] at owner
  exact (Run.keeps_acting run).mount_once he he' owner mounts mounts'

/-- **A task runs for a handle that was mounted.** -/
theorem Run.spawned (run : System.Run service (acting c actors m) σ) (he : e ∈ σ.log)
    (spawns : e.call = .spawn (.cycle i h)) :
    ∃ e' before', e' :: before' <:+ σ.log ∧ e'.exchange.mounts? = some (i, h) := by
  obtain ⟨later, before, eq⟩ := List.append_of_mem he
  have he : e :: before <:+ σ.log := ⟨later, eq.symm⟩
  have may := Run.mayAct run he
  rw [spawns] at may
  cases actor : actors e.party with
  | start j =>
    have start : (traced (fun _ => True) MaySpawn).Ensures (fun _ _ => True)
        ((actors e.party).program c) [] := by
      rw [actor]
      exact (ensures_start_spawns j).bind fun _ _ _ _ => ensures_done trivial
    have may := System.may_of_lawful ((run.made e.party).lawful start fun _ _ => trivial) he
    rw [spawns] at may
    obtain ⟨_, _, same, x, hx, mounts⟩ := may
    cases same
    obtain ⟨e', he', -, rfl⟩ := System.mem_trace.1 hx
    obtain ⟨later', before', eq'⟩ := List.append_of_mem he'
    have he' : e' :: before' <:+ before := ⟨later', eq'.symm⟩
    exact ⟨e', before', he'.trans ((List.suffix_cons e before).trans he), mounts⟩
  | worker | cancel | finalize | writer =>
    rw [actor] at may
    exact may.elim

/-- The handle of a cycle that an instance has is the one for which the task of the cycle runs. -/
theorem Run.own_handle (run : System.Run service (acting c actors m) σ)
    (empty : m.registry = .empty) (apart : DrawApart σ.log)
    (spawned : ∃ e ∈ σ.log, e.call = .spawn (.cycle i h)) (hl : log <:+ σ.log)
    (held : handle m.registry j log = some h') (same : h'.cycle = h.cycle) : j = i ∧ h' = h := by
  obtain ⟨e, he, spawns⟩ := spawned
  obtain ⟨e, before, he, mounts⟩ := Run.spawned run he spawns
  rcases handle_cases held with old | ⟨e', before', he', mounts', -⟩
  · rw [empty] at old
    cases old
  · have eq := Run.mount_of_cycle run apart he (he'.trans hl) mounts mounts' same
    cases eq
    rw [mounts] at mounts'
    cases mounts'
    exact ⟨rfl, rfl⟩

/-! ## What a task changes -/

/-- What a call of the task of the cycle of `h` on the instance `i` may change: it completes this
cycle where it is stored, or removes this handle where it is held, or fires its token. -/
structure Guarded (i : InstanceId) (h : CycleHandle) (m m' : Memory) : Prop where
  records : (∀ j, m'.instances.find? j = m.instances.find? j) ∨ ∃ r time,
    m.instances.find? i = some r ∧ r.cycle = some h.cycle ∧ ∀ j, m'.instances.find? j =
      if j = i then some { r with sync := .completed, syncUpdated := some time }
      else m.instances.find? j
  handles : (∀ j, m'.registry.acquire j = m.registry.acquire j) ∨
    m.registry.acquire i = some h ∧
      ∀ j, m'.registry.acquire j = if j = i then none else m.registry.acquire j
  tokens : ∀ t ∈ m'.tokens.fired, t ∈ m.tokens.fired ∨ t = h.token

/-- A handle is removed for its cycle only. -/
theorem service_removeCycle {k : CycleId}
    (served : service m (.removeCycle i k) (some h') m') :
    m.registry.acquire i = some h' ∧ h'.cycle = k := by
  have answered := answer?_of_service served rfl
  rw [Memory.answer?, CycleRegistry.removeCycle] at answered
  split at answered
  · next current =>
    have held : m.registry.acquire i = some h' := congrArg Prod.fst (Option.some.inj answered)
    rw [held] at current
    exact ⟨held, Option.some.inj current⟩
  · cases answered

section

variable {call : Call} {a : call.Answer}

theorem Guarded.records_of_mayWork (may : MayWork i h call t) (served : service m call a m') :
    (∀ j, m'.instances.find? j = m.instances.find? j) ∨ ∃ r time,
      m.instances.find? i = some r ∧ r.cycle = some h.cycle ∧ ∀ j, m'.instances.find? j =
        if j = i then some { r with sync := .completed, syncUpdated := some time }
        else m.instances.find? j := by
  have found := find?_of_service served
  cases call with
  | updateInstance => exact may.elim
  | finishCycle j k status time =>
    obtain ⟨rfl, rfl, rfl⟩ := may
    match a with
    | .error _ | .ok none => exact .inl found
    | .ok (some r) =>
      obtain ⟨r₀, stored, current, written⟩ := service_finishCycle served
      have found (j' : InstanceId) : m'.instances.find? j' =
          if j' = j then some r else m.instances.find? j' := by
        rw [found, Exchange.stored?]
        by_cases same : j = j'
        · simp [same]
        · simp [same, Ne.symm same]
      rcases written with rfl | rfl
      · refine .inl fun j' => ?_
        rw [found]
        split
        · next same => rw [same, stored]
        · rfl
      · exact .inr ⟨r₀, time, stored, current, found⟩
  | _ => exact .inl found

end

/-- What the task of a cycle has removed is its own handle. -/
theorem Run.dropped_by_worker (run : System.Run service (acting c actors m) σ)
    (empty : m.registry = .empty) (apart : DrawApart σ.log)
    (spawned : ∃ e ∈ σ.log, e.call = .spawn (.cycle i h)) (he : e :: before <:+ σ.log)
    (worker : actors e.party = .worker i h) (dropped : e.exchange.dropped? = some h') :
    h' = h := by
  have may := Run.mayAct run he
  rw [worker] at may
  obtain ⟨u, m', run', -, rfl, served⟩ := run.exists_served he List.nil_suffix
  obtain ⟨q, call, a⟩ := e
  cases call with
  | mountHandle | removeHandle => exact may.elim
  | removeCycle j k =>
    obtain ⟨rfl, rfl⟩ := may
    obtain rfl : a = some h' := dropped
    obtain ⟨held, same⟩ := service_removeCycle served
    rw [(Run.told run').handle] at held
    have earlier := (List.suffix_cons _ _).trans he
    exact (Run.own_handle run empty apart spawned earlier held same).2
  | _ => cases dropped

/-- **The task of a stale cycle changes nothing.** Cycles are started, cancelled and ended, and
anybody else writes the records of instances, at the same time and in any way, and all cycles have
different names. Then each call of the task of a cycle leaves all records alone but that of its own
instance, and that one too unless its cycle is the stored one, which it completes; it removes no
handle but its own one, and fires no token but that of its own handle, which no other handle has. -/
theorem stale_worker_guard (run : System.Run service (acting c actors m) σ)
    (empty : m.registry = .empty) (apart : DrawApart σ.log) (worker : actors p = .worker i h)
    (spawned : ∃ e ∈ σ.log, e.call = .spawn (.cycle i h)) {call : Call} {a : call.Answer}
    {next : call.Answer → Program Unit} (left : σ.parties p = .ask call next)
    (served : service σ.memory call a m') :
    Guarded i h σ.memory m' ∧
      ∀ j h', (j, h') ∈ installed σ.log → h'.token = h.token → j = i ∧ h' = h := by
  have told := Run.told run
  have may := Run.mayAct_next run left
  rw [worker] at may
  refine ⟨⟨Guarded.records_of_mayWork may served, ?_, ?_⟩, ?_⟩
  · have held := acquire_of_service served
    cases call with
    | mountHandle | removeHandle => exact may.elim
    | removeCycle j k =>
      obtain ⟨rfl, rfl⟩ := may
      cases a with
      | none => exact .inl held
      | some h' =>
        obtain ⟨current, same⟩ := service_removeCycle served
        have now := current
        rw [told.handle] at now
        obtain rfl := (Run.own_handle run empty apart spawned List.suffix_rfl now same).2
        refine .inr ⟨current, fun j' => ?_⟩
        rw [held, Exchange.mounted?]
        by_cases same : j = j'
        · simp [same]
        · simp [same, Ne.symm same]
    | _ => exact .inl held
  · obtain ⟨-, -, fired⟩ := tokens_of_service served
    intro k hk
    rcases (fired k).1 hk with fires | old
    · cases call with
      | fireToken =>
        cases fires
        obtain ⟨x, hx, h', dropped, token⟩ := may
        obtain ⟨e, he, rfl, rfl⟩ := System.mem_trace.1 hx
        obtain ⟨later, before, eq⟩ := List.append_of_mem he
        have he : e :: before <:+ σ.log := ⟨later, eq.symm⟩
        rw [Run.dropped_by_worker run empty apart spawned he worker dropped] at token
        exact .inr token.symm
      | _ => cases fires
    · exact .inl old
  · intro j h' was same
    obtain ⟨e, he, spawns⟩ := spawned
    obtain ⟨e, before, he, mounts⟩ := Run.spawned run he spawns
    obtain ⟨e', before', he', mounts'⟩ := mem_installed.1 was
    have eq := (Run.keeps_acting run).mount_of_token told he he' mounts mounts' same
    cases eq
    rw [mounts] at mounts'
    cases mounts'
    exact ⟨rfl, rfl⟩

/-! ## A sample run -/

namespace Sample

/-- Clocks stand still, and pauses end when their time is up. -/
def timer : (call : Call) → Option call.Answer
  | .elapsed => some (0 : Nat)
  | .pause .. => some Wake.elapsed
  | _ => none

/-- The timer answers what neither the memory nor the network does. -/
def timed? (call : Call) (m : Memory) : Option (call.Answer × Memory) :=
  (answer? call m).or ((timer call).map (·, m))

theorem service_of_timed? (call : Call) (m : Memory) (a : call.Answer) (m' : Memory)
    (h : timed? call m = some (a, m')) : service m call a m' := by
  cases answered : answer? call m with
  | some b =>
    rw [timed?, answered, Option.some_or] at h
    rw [h] at answered
    exact service_of_answer? _ _ _ _ answered
  | none =>
    rw [timed?, answered, Option.none_or, Option.map_eq_some_iff] at h
    obtain ⟨b, time, eq⟩ := h
    cases eq
    cases call <;> first | exact ⟨rfl, rfl, rfl⟩ | cases time

/-- The first party starts a cycle, and the second one is the task of this cycle. -/
def cast (p : Party) : Actor :=
  if p = 0 then .start record.id else .worker record.id ⟨⟨0⟩, ⟨0⟩⟩

/-- The task has waited. -/
def waited : System Unit :=
  System.play timed? (List.replicate 7 0 ++ List.replicate 3 1) (acting {} cast memory)

/-- The task has completed the cycle. -/
def completed : System Unit :=
  System.play timed? [1] waited

end Sample

/-- The task of the sample completes its cycle, which is the stored one. -/
theorem stale_worker_guard_sample :
    Guarded Sample.record.id ⟨⟨0⟩, ⟨0⟩⟩ Sample.waited.memory Sample.completed.memory ∧
      (Sample.completed.memory.instances.find? Sample.record.id).map Instance.sync =
        some .completed := by
  have run : System.Run service (acting {} Sample.cast Sample.memory) Sample.waited :=
    System.run_play Sample.service_of_timed? _ _
  have apart : DrawApart Sample.waited.log := by
    unfold DrawApart
    decide
  have spawned : ∃ e ∈ Sample.waited.log,
      e.call = .spawn (.cycle Sample.record.id ⟨⟨0⟩, ⟨0⟩⟩) :=
    ⟨_, .tail _ (.tail _ (.tail _ (.head _))), rfl⟩
  have served : service Sample.waited.memory
      (.finishCycle Sample.record.id ⟨0⟩ .completed ⟨0, 0⟩) _ Sample.completed.memory :=
    Sample.service_of_timed? _ _ _ _ rfl
  exact ⟨(stale_worker_guard run rfl apart (p := 1) rfl spawned rfl served).1, by decide⟩

end HistorySync

end MessageGateway
