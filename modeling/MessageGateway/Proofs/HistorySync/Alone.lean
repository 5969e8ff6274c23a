import MessageGateway.Proofs.Dispatch.Alone
import MessageGateway.Proofs.HistorySync.Footprint
import MessageGateway.Proofs.SideBySide

/-!
# The coordinator alone

Each operation of the coordinator, and what is left of the task of a cycle when it has waited, is run
alone on a memory. What it comes to is written out here as a change of the memory, once for each
operation.

## Main definitions

* `Yields outside p m w a m' w'`: run alone, `p` comes to `a` and leaves the memory `m'`
* `HistorySync.stored`, `HistorySync.mounted`, `HistorySync.released`: the changes of a memory

## Main results

* `Yields.bind`, `Yields.bindOk`, `Yields.bindError`: what sequences come to
* `HistorySync.yields_startCycle`, `HistorySync.yields_cancelCycle`,
  `HistorySync.yields_finalizeCycle`, `HistorySync.yields_cycleEnd`: the operations on cycles
-/

namespace MessageGateway

open Program

variable {ω α β ε ε' : Type} {outside : (c : Call) → ω → c.Answer × ω} {m m' m'' : Memory}
  {w w' w'' : ω}

/-- Run alone on the memory `m`, with `w` outside of it, the program comes to the result `a` and
leaves the memory `m'` and `w'` outside. -/
def Yields (outside : (c : Call) → ω → c.Answer × ω) (p : Program α) (m : Memory) (w : ω) (a : α)
    (m' : Memory) (w' : ω) : Prop :=
  ∀ log, ∃ log', p.run (Solo.answer outside) ⟨m, w, log⟩ = (a, ⟨m', w', log'⟩)

theorem yields_pure (a : α) : Yields outside (pure a) m w a m w :=
  fun log => ⟨log, rfl⟩

/-- A call that the memory answers. -/
theorem yields_inside {c : Call} {a : c.Answer} (h : m.answer? c = some (a, m')) :
    Yields outside (request c) m w a m' w := by
  intro log
  refine ⟨⟨c, a⟩ :: log, ?_⟩
  simp only [request, Program.run, Solo.answer, h]

/-- A call that the memory does not answer. -/
theorem yields_outside {c : Call} (h : m.answer? c = none) :
    Yields outside (request c) m w (outside c w).1 m (outside c w).2 := by
  intro log
  refine ⟨⟨c, (outside c w).1⟩ :: log, ?_⟩
  simp only [request, Program.run, Solo.answer, h]

/-- **Sequences**: the second part starts where the first one ends. -/
theorem Yields.bind {p : Program α} {f : α → Program β} {a : α} {b : β}
    (h : Yields outside p m w a m' w') (hf : Yields outside (f a) m' w' b m'' w'') :
    Yields outside (p >>= f) m w b m'' w'' := by
  intro log
  obtain ⟨log', left⟩ := h log
  obtain ⟨log'', right⟩ := hf log'
  exact ⟨log'', by rw [run_bind, left, right]⟩

theorem Yields.map {p : Program α} {a : α} (h : Yields outside p m w a m' w') (f : α → β) :
    Yields outside (f <$> p) m w (f a) m' w' := by
  rw [map_eq_pure_bind]
  exact h.bind (yields_pure _)

theorem Yields.bindOk {x : ExceptT ε Program α} {f : α → ExceptT ε Program β} {a : α}
    {b : Except ε β} (h : Yields outside x.run m w (.ok a) m' w')
    (hf : Yields outside (f a).run m' w' b m'' w'') : Yields outside (x >>= f).run m w b m'' w'' :=
  Yields.bind h hf

theorem Yields.bindError {x : ExceptT ε Program α} {f : α → ExceptT ε Program β} {e : ε}
    (h : Yields outside x.run m w (.error e) m' w') :
    Yields outside (x >>= f).run m w (.error e) m' w' :=
  Yields.bind h (yields_pure _)

theorem Yields.bindLift {p : Program α} {f : α → ExceptT ε Program β} {a : α} {b : Except ε β}
    (h : Yields outside p m w a m' w') (hf : Yields outside (f a).run m' w' b m'' w'') :
    Yields outside ((liftM p : ExceptT ε Program α) >>= f).run m w b m'' w'' :=
  (h.map Except.ok).bindOk hf

theorem Yields.orFail {p : Program (Except ε α)} {r : Except ε α}
    (h : Yields outside p m w r m' w') (f : ε → ε') :
    Yields outside (Program.orFail f p).run m w (r.mapError f) m' w' :=
  h.bind (yields_pure _)

namespace HistorySync

variable {i : InstanceId} {r : Instance} {k : CycleId} {h : CycleHandle}

/-! ## Changes of a memory -/

/-- The memory with `r` in the place of the record of its name. -/
def stored (m : Memory) (r : Instance) : Memory :=
  { m with instances := m.instances.replace r }

/-- The tokens once that of a handle has been fired, if there is a handle. -/
def dismissed (b : TokenBox) : Option CycleHandle → TokenBox
  | some h => b.fire h.token
  | none => b

/-- The memory without the handle of an instance, whose token has been fired. -/
def released (m : Memory) (i : InstanceId) : Memory :=
  { m with
    registry := m.registry.erase i
    tokens := dismissed m.tokens (m.registry.acquire i) }

/-- The handle of a cycle that starts now. -/
def nextHandle (m : Memory) (k : CycleId) : CycleHandle :=
  ⟨k, m.tokens.issue.1⟩

/-- The memory with a handle for a cycle that starts now; the token of the handle that it displaces
has been fired. -/
def mounted (m : Memory) (i : InstanceId) (k : CycleId) : Memory :=
  { m with
    registry := m.registry.put (i, nextHandle m k)
    tokens := dismissed m.tokens.issue.2 (m.registry.acquire i) }

/-- The memory without the handle of an instance if it is that of the cycle `k`. -/
def releasedFrom (m : Memory) (i : InstanceId) (k : CycleId) : Memory :=
  if (m.registry.acquire i).map CycleHandle.cycle = some k then released m i else m

/-- The record of a history sync once it has come to a status. A record that has the status stays as
it is. -/
def finished (r : Instance) (status : SyncStatus) (time : Timestamp) : Instance :=
  if r.sync = status then r else r.finishSync status time

@[simp] theorem id_finished (status : SyncStatus) (time : Timestamp) :
    (finished r status time).id = r.id := by
  unfold finished
  split <;> rfl

theorem isFired_dismissed (b : TokenBox) (o : Option CycleHandle) (t : Token) :
    (dismissed b o).isFired t = (b.isFired t || o.any fun h => decide (t = h.token)) := by
  cases o with
  | none => simp [dismissed]
  | some h => exact b.isFired_fire h.token t

theorem find?_stored {r₀ : Instance} (found : m.instances.find? i = some r₀) (named : r.id = i)
    (j : InstanceId) :
    (stored m r).instances.find? j = if j = i then some r else m.instances.find? j := by
  rw [stored, Table.find?_replace, named]
  split
  · next same => rw [same, found, Option.map_some]
  · rfl

/-- A record may be stored in its own place. -/
theorem stored_self (found : m.instances.find? i = some r) : stored m r = m := by
  rw [stored, Table.replace_of_mem (Table.mem_of_find? found)]

theorem acquire_released (m : Memory) (i j : InstanceId) :
    (released m i).registry.acquire j = if j = i then none else m.registry.acquire j :=
  m.registry.acquire_remove i j

theorem acquire_mounted (m : Memory) (i : InstanceId) (k : CycleId) (j : InstanceId) :
    (mounted m i k).registry.acquire j =
      if j = i then some (nextHandle m k) else m.registry.acquire j :=
  m.registry.acquire_mount i j (nextHandle m k)

/-! ## Handles -/

theorem yields_releaseHandle (m : Memory) (w : ω) (i : InstanceId) :
    Yields outside (releaseHandle i) m w (m.registry.acquire i) (released m i) w := by
  have remove : Yields outside (removeHandle i) m w (m.registry.acquire i)
      { m with registry := m.registry.erase i } w := yields_inside rfl
  refine remove.bind ?_
  unfold released
  cases m.registry.acquire i with
  | none => exact yields_pure _
  | some h => exact Yields.bind (yields_inside rfl) (yields_pure _)

theorem yields_releaseCycle (m : Memory) (w : ω) (i : InstanceId) (k : CycleId) :
    ∃ removed, Yields outside (releaseCycle i k) m w removed (releasedFrom m i k) w := by
  unfold releasedFrom
  split
  · next current =>
    have remove : Yields outside (removeCycle i k) m w (m.registry.acquire i)
        { m with registry := m.registry.erase i } w := by
      refine yields_inside ?_
      simp only [Memory.answer?, CycleRegistry.removeCycle, current, if_true, CycleRegistry.remove]
    refine ⟨m.registry.acquire i, remove.bind ?_⟩
    unfold released
    cases m.registry.acquire i with
    | none => exact yields_pure _
    | some h => exact Yields.bind (yields_inside rfl) (yields_pure _)
  · next other =>
    have remove : Yields outside (removeCycle i k) m w none m w := by
      refine yields_inside ?_
      simp only [Memory.answer?, CycleRegistry.removeCycle, other, if_false]
    exact ⟨none, remove.bind (yields_pure _)⟩

/-! ## Operations on cycles -/

theorem yields_findInstance (found : m.instances.find? i = some r) :
    Yields outside (findInstance i) m w (.ok r) m w :=
  yields_inside (by simp only [Memory.answer?, InstanceStore.get, found])

theorem yields_findInstance_none (absent : m.instances.find? i = none) :
    Yields outside (findInstance i) m w (.error (.notFound i.text)) m w :=
  yields_inside (by simp only [Memory.answer?, InstanceStore.get, absent])

theorem yields_updateInstance {r₀ : Instance} (found : m.instances.find? r.id = some r₀) :
    Yields outside (updateInstance r) m w (.ok r) (stored m r) w := by
  refine yields_inside (Dispatch.answer?_updateInstance ?_)
  rw [InstanceStore.update, Table.contains, found]
  rfl

/-- **A start** stores its cycle, mounts its handle and starts its task. -/
theorem yields_startCycle (found : m.instances.find? i = some r) (w : ω) :
    let name := outside .newCycleId w
    let time := outside .now name.2
    let record := r.beginSync name.1 time.1
    Yields outside (startCycle i) m w (.ok name.1) (mounted (stored m record) i name.1)
      (outside (.spawn (.cycle i (nextHandle m name.1))) time.2).2 := by
  intro name time record
  have named : r.id = i := Table.key_of_find? found
  refine Yields.bindLift (yields_outside rfl) ?_
  refine ((yields_findInstance found).orFail _).bindOk ?_
  refine Yields.bindLift (yields_outside rfl) ?_
  have update : Yields outside (updateInstance record) m time.2 (.ok record) (stored m record)
      time.2 := yields_updateInstance (named.symm ▸ found)
  refine (update.orFail _).bindOk ?_
  refine Yields.bindLift (yields_inside rfl) ?_
  have replace : Yields outside (replaceHandle i (nextHandle m name.1))
      { stored m record with tokens := m.tokens.issue.2 } time.2 (m.registry.acquire i)
      (mounted (stored m record) i name.1) time.2 := by
    have mount : Yields outside (mountHandle i (nextHandle m name.1))
      { stored m record with tokens := m.tokens.issue.2 } time.2 (m.registry.acquire i)
      { stored m record with
        tokens := m.tokens.issue.2
        registry := m.registry.put (i, nextHandle m name.1) } time.2 := yields_inside rfl
    refine mount.bind ?_
    show Yields _ _ _ _ _ { stored m record with
      tokens := dismissed m.tokens.issue.2 (m.registry.acquire i)
      registry := m.registry.put (i, nextHandle m name.1) } _
    cases m.registry.acquire i with
    | none => exact yields_pure _
    | some h => exact Yields.bind (yields_inside rfl) (yields_pure _)
  refine replace.bindLift ?_
  exact Yields.bindLift (yields_outside rfl) (yields_pure _)

theorem yields_startCycle_none (absent : m.instances.find? i = none) (w : ω) :
    Yields outside (startCycle i) m w (.error (.store (.notFound i.text))) m
      (outside .newCycleId w).2 := by
  refine Yields.bindLift (yields_outside rfl) ?_
  exact ((yields_findInstance_none absent).orFail _).bindError

/-- **A cancellation** releases the handle. -/
theorem yields_cancelCycle (m : Memory) (w : ω) (i : InstanceId) :
    Yields outside (cancelCycle i) m w (m.registry.acquire i).isSome (released m i) w :=
  (yields_releaseHandle m w i).bind (yields_pure _)

/-- **The end of a cycle by a caller** stores the status unless the record has it, and releases the
handle. -/
theorem yields_finalizeCycle (found : m.instances.find? i = some r) (status : SyncStatus) (w : ω) :
    Yields outside (finalizeCycle i status) m w (.ok ())
      (released (stored m (finished r status (outside .now w).1)) i)
      (if r.sync = status then w else (outside .now w).2) := by
  have named : r.id = i := Table.key_of_find? found
  have release (m : Memory) (w : ω) : Yields outside
      (do let _ ← releaseHandle i : ExceptT SyncError Program Unit).run m w (.ok ())
      (released m i) w :=
    (yields_releaseHandle m w i).bindLift (yields_pure _)
  refine ((yields_findInstance found).orFail _).bindOk ?_
  dsimp only
  split
  · next changed =>
    refine Yields.bindLift (yields_outside rfl) ?_
    have update : Yields outside (updateInstance (r.finishSync status (outside .now w).1)) m
        (outside .now w).2 (.ok (r.finishSync status (outside .now w).1))
        (stored m (r.finishSync status (outside .now w).1)) (outside .now w).2 :=
      yields_updateInstance (named.symm ▸ found)
    simp only [finished, if_neg changed]
    exact (update.orFail _).bindOk (release _ _)
  · next same =>
    simp only [finished, if_pos (Decidable.not_not.1 same), stored_self found]
    exact release _ _

theorem yields_finalizeCycle_none (absent : m.instances.find? i = none) (status : SyncStatus)
    (w : ω) :
    Yields outside (finalizeCycle i status) m w (.error (.store (.notFound i.text))) m w :=
  ((yields_findInstance_none absent).orFail _).bindError

/-- The memory once the time of the cycle `k` is up. -/
def ended (m : Memory) (i : InstanceId) (k : CycleId) (time : Timestamp) : Memory :=
  match m.instances.find? i with
  | none => m
  | some r =>
    if r.cycle = some k then releasedFrom (stored m (finished r .completed time)) i k else m

/-- **The task of a cycle that was not stopped** completes its cycle if that is the stored one, and
then releases its handle. -/
theorem yields_cycleEnd (m : Memory) (w : ω) (i : InstanceId) (h : CycleHandle) :
    Yields outside (cycleEnd i h .elapsed) m w () (ended m i h.cycle (outside .now w).1)
      (outside .now w).2 := by
  refine Yields.bind (yields_outside rfl) ?_
  unfold ended
  cases found : m.instances.find? i with
  | none =>
    have finish : Yields outside (finishCycle i h.cycle .completed (outside .now w).1) m
        (outside .now w).2 (.error (.notFound i.text)) m (outside .now w).2 :=
      yields_inside (by simp only [Memory.answer?, InstanceStore.finish, found])
    exact finish.bind (yields_pure _)
  | some r =>
    dsimp only
    split
    · next current =>
      have finish : Yields outside (finishCycle i h.cycle .completed (outside .now w).1) m
          (outside .now w).2 (.ok (some (finished r .completed (outside .now w).1)))
          (stored m (finished r .completed (outside .now w).1)) (outside .now w).2 := by
        refine yields_inside ?_
        simp only [Memory.answer?, InstanceStore.finish, found, current, ne_eq, not_true_eq_false,
          if_false]
        rfl
      obtain ⟨removed, release⟩ := yields_releaseCycle
        (stored m (finished r .completed (outside .now w).1)) (outside .now w).2 i h.cycle
      exact finish.bind (release.bind (yields_pure _))
    · next other =>
      have finish : Yields outside (finishCycle i h.cycle .completed (outside .now w).1) m
          (outside .now w).2 (.ok none) m (outside .now w).2 := by
        refine yields_inside ?_
        simp only [Memory.answer?, InstanceStore.finish, found, other, ne_eq, not_false_eq_true,
          if_true]
      exact finish.bind (yields_pure _)

/-- **The active cycle** is that of the handle, unless its token has been fired. -/
theorem yields_activeCycle (m : Memory) (w : ω) (i : InstanceId) :
    Yields outside (activeCycle i) m w
      (((m.registry.acquire i).filter fun h => !m.tokens.isFired h.token).map CycleHandle.cycle)
      m w := by
  have find : Yields outside (findHandle i) m w (m.registry.acquire i) m w := yields_inside rfl
  refine find.bind ?_
  cases m.registry.acquire i with
  | none => exact yields_pure _
  | some h =>
    have look : Yields outside (anyFired [h.token]) m w (m.tokens.anyFired [h.token]) m w :=
      yields_inside rfl
    refine look.bind ?_
    have one : m.tokens.anyFired [h.token] = m.tokens.isFired h.token := by
      simp [TokenBox.anyFired]
    rw [one]
    cases fired : m.tokens.isFired h.token with
    | true => simpa [Option.filter, fired] using yields_pure none
    | false => simpa [Option.filter, fired] using yields_pure (some h.cycle)

theorem yields_isRunning (m : Memory) (w : ω) (i : InstanceId) :
    Yields outside (isRunning i) m w
      (((m.registry.acquire i).filter fun h => !m.tokens.isFired h.token).map
        CycleHandle.cycle).isSome m w :=
  (yields_activeCycle m w i).bind (yields_pure _)

/-! ## Operations on announcements -/

/-- An announcement that comes now to an instance with the record `r`. -/
def announced (r : Instance) (id : PayloadId) (payload : List UInt8) (time : Timestamp) :
    SyncPayload :=
  .make id r.id SyncPayload.notificationType payload r.cycle time

/-- **An announcement** is stored under the current cycle, after all others. -/
theorem yields_recordNotification (found : m.instances.find? i = some r) (payload : List UInt8)
    (w : ω) (fresh : m.payloads.contains (outside .newPayloadId w).1 = false) :
    let name := outside .newPayloadId w
    let time := outside .now name.2
    let p := announced r name.1 payload time.1
    Yields outside (recordNotification i payload) m w (.ok p)
      { m with payloads := m.payloads.insert p } time.2 := by
  intro name time p
  obtain rfl : r.id = i := Table.key_of_find? found
  refine ((yields_findInstance found).orFail _).bindOk ?_
  refine Yields.bindLift (yields_outside rfl) ?_
  refine Yields.bindLift (yields_outside rfl) ?_
  have create : Yields outside (createPayload p) m time.2 (.ok p)
      { m with payloads := m.payloads.insert p } time.2 := by
    refine yields_inside ?_
    have free : m.payloads.contains p.id = false := fresh
    simp only [Memory.answer?, PayloadStore.create, free, Bool.false_eq_true, if_false]
    rfl
  exact create.orFail _

theorem yields_recordNotification_none (absent : m.instances.find? i = none)
    (payload : List UInt8) (w : ω) :
    Yields outside (recordNotification i payload) m w (.error (.store (.notFound i.text))) m w :=
  ((yields_findInstance_none absent).orFail _).bindError

theorem yields_purge (m : Memory) (w : ω) (i : InstanceId) :
    Yields outside (purge i) m w (.ok ()) { m with payloads := m.payloads.purge i } w := by
  have erase : Yields outside (purgePayloads i) m w (.ok ())
      { m with payloads := m.payloads.purge i } w := yields_inside rfl
  exact erase.orFail _

/-- The payloads with one of them processed at a time. -/
def marked (id : PayloadId) (time : Timestamp) (rows : List SyncPayload) : List SyncPayload :=
  rows.map fun q => if q.id = id then { q with status := .done, processed := some time } else q

theorem exists_mem_marked {rows : List SyncPayload} {q : SyncPayload} (id : PayloadId)
    (time : Timestamp) (h : q ∈ rows) : ∃ q' ∈ marked id time rows, q'.id = q.id := by
  refine ⟨_, List.mem_map_of_mem h, ?_⟩
  split <;> rfl

/-- The payloads `ps` are processed in turn, and those that are accepted are marked among `rows`:
how many they are, the payloads then, and what is left outside. -/
def handled (accept : SyncPayload → Except SyncError Unit) (date : ω → Timestamp × ω) :
    List SyncPayload → List SyncPayload → ω → Nat × List SyncPayload × ω
  | [], rows, w => (0, rows, w)
  | p :: ps, rows, w =>
    match accept p with
    | .error _ => handled accept date ps rows w
    | .ok () =>
      let rest := handled accept date ps (marked p.id (date w).1 rows) (date w).2
      (rest.1 + 1, rest.2)

section

variable {accept : SyncPayload → Except SyncError Unit}

/-- **Processing** marks what is accepted, and nothing fails if all payloads are there. -/
theorem yields_processAll (accepts : ∀ p w, outside (.processPayload p) w = (accept p, w))
    (ps : List SyncPayload) (m : Memory) (w : ω)
    (there : ∀ p ∈ ps, ∃ q ∈ m.payloads.rows, q.id = p.id) : ∃ payloads : PayloadStore,
      payloads.rows = (handled accept (outside .now) ps m.payloads.rows w).2.1 ∧
      Yields outside (processAll ps).run m w
        (.ok (handled accept (outside .now) ps m.payloads.rows w).1) { m with payloads }
        (handled accept (outside .now) ps m.payloads.rows w).2.2 := by
  induction ps generalizing m w with
  | nil => exact ⟨m.payloads, rfl, yields_pure _⟩
  | cons p ps ih =>
    have process : Yields outside (processPayload p) m w (accept p) m w := by
      have asked : Yields outside (processPayload p) m w (outside (.processPayload p) w).1 m
        (outside (.processPayload p) w).2 := yields_outside rfl
      rwa [accepts] at asked
    obtain ⟨first, later⟩ := List.forall_mem_cons.1 there
    cases accepted : accept p with
    | error e =>
      rw [accepted] at process
      simp only [handled, accepted]
      obtain ⟨payloads, rows, rest⟩ := ih m w later
      exact ⟨payloads, rows, process.bindLift rest⟩
    | ok _ =>
      rw [accepted] at process
      simp only [handled, accepted]
      obtain ⟨q, hq, same⟩ := first
      obtain ⟨s, mark⟩ := PayloadStore.exists_mark_eq_ok hq .done (some (outside .now w).1)
      rw [same] at mark
      have rows : s.rows = marked p.id (outside .now w).1 m.payloads.rows :=
        PayloadStore.rows_mark mark
      have there' : ∀ p ∈ ps, ∃ q ∈ s.rows, q.id = p.id := by
        intro p' hp'
        obtain ⟨q', hq', same'⟩ := later p' hp'
        obtain ⟨q'', hq'', same''⟩ := exists_mem_marked p.id (outside .now w).1 hq'
        exact ⟨q'', rows ▸ hq'', same''.trans same'⟩
      obtain ⟨payloads, rows', rest⟩ := ih { m with payloads := s } (outside .now w).2 there'
      rw [rows] at rows' rest
      refine ⟨payloads, rows', process.bindLift ?_⟩
      refine Yields.bindLift (yields_outside rfl) ?_
      have write : Yields outside (markPayload p.id .done (some (outside .now w).1)) m
          (outside .now w).2 (.ok ()) { m with payloads := s } (outside .now w).2 :=
        yields_inside (by simp only [Memory.answer?, mark]; rfl)
      exact (write.orFail _).bindOk (rest.bindOk (yields_pure _))

/-- **The announcements of the current cycle** that are pending are processed. -/
theorem yields_processPending (accepts : ∀ p w, outside (.processPayload p) w = (accept p, w))
    (found : m.instances.find? i = some r) (w : ω) : ∃ payloads : PayloadStore,
      let ps := m.payloads.pending i r.cycle
      payloads.rows = (handled accept (outside .now) ps m.payloads.rows w).2.1 ∧
      Yields outside (processPending i) m w
        (.ok (handled accept (outside .now) ps m.payloads.rows w).1) { m with payloads }
        (handled accept (outside .now) ps m.payloads.rows w).2.2 := by
  have there : ∀ p ∈ m.payloads.pending i r.cycle, ∃ q ∈ m.payloads.rows, q.id = p.id :=
    fun p hp => ⟨p, (List.mem_filter.1 hp).1, rfl⟩
  obtain ⟨payloads, rows, process⟩ := yields_processAll accepts _ m w there
  refine ⟨payloads, rows, ?_⟩
  refine ((yields_findInstance found).orFail _).bindOk ?_
  have look : Yields outside (pendingPayloads i r.cycle) m w (.ok (m.payloads.pending i r.cycle)) m
      w := yields_inside rfl
  exact (look.orFail _).bindOk process

theorem yields_processPending_none (absent : m.instances.find? i = none) (w : ω) :
    Yields outside (processPending i) m w (.error (.store (.notFound i.text))) m w :=
  ((yields_findInstance_none absent).orFail _).bindError

end

end HistorySync

end MessageGateway
