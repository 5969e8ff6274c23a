import MessageGateway.Proofs.HistorySync.Guard

/-!
# The statuses of history syncs

A history sync begins idle, runs, is completed, and runs again. Starts, the tasks of cycles and
callers that complete a cycle write the status, at the same time and in any order. The task of a
cycle completes its cycle only while that is the stored one. A caller that completes a cycle looks
at the status alone, and so it completes a history sync that was never begun.

## Main definitions

* `SyncStatus.Next`: the steps of a history sync
* `HistorySync.Errand`: the operations on cycles, when callers do nothing to a cycle but complete or
  cancel it
* `HistorySync.Writes`: what an errand writes into a record
* `HistorySync.CompletesBegun`: no caller completes a history sync that it has found idle

## Main results

* `HistorySync.ensures_errand`: an errand writes into a record only what it may
* `HistorySync.Run.row_idle`: a history sync that is idle has been idle all the time
* `HistorySync.statuses_linear`: the changes of a status
-/

namespace MessageGateway

open Program Setting

/-- The steps of a history sync. -/
inductive SyncStatus.Next : SyncStatus → SyncStatus → Prop
  | begun : Next .idle .running
  | completed : Next .running .completed
  | begunAgain : Next .completed .running

namespace HistorySync

/-- An operation on the cycles of an instance; callers end a cycle by completing it. -/
inductive Errand where
  /-- A cycle is started. -/
  | start (i : InstanceId)
  /-- A cycle is cancelled. -/
  | cancel (i : InstanceId)
  /-- A caller completes the cycle. -/
  | complete (i : InstanceId)
  /-- The task of a cycle. -/
  | worker (i : InstanceId) (h : CycleHandle)
  /-- An announcement is stored. -/
  | announce (i : InstanceId) (payload : List UInt8)

/-- A caller completes a cycle. -/
def Errand.completes : Errand → Bool
  | .complete _ => true
  | _ => false

/-- The program of an errand. -/
def Errand.program (c : HistorySyncConfig) : Errand → Program Unit
  | .start i => do let _ ← startCycle i
  | .cancel i => do let _ ← cancelCycle i
  | .complete i => do let _ ← finalizeCycle i .completed
  | .worker i h => cycleRound c i h
  | .announce i payload => do let _ ← recordNotification i payload

/-! ## What errands write -/

/-- What an errand that overwrites a record makes of the record that it has read. -/
inductive Writes : Errand → Instance → Instance → Prop
  | begun {i : InstanceId} {r : Instance} (k : CycleId) (time : Timestamp) :
      Writes (.start i) r (r.beginSync k time)
  | completed {i : InstanceId} {r : Instance} (time : Timestamp) :
      Writes (.complete i) r (r.finishSync .completed time)

/-- An errand overwrites a record by what it makes of the record that it has read last, and what
ends by itself is completed. -/
def MayWrite (errand : Errand) : Call → Trace → Prop
  | .updateInstance r, t => ∃ r₀, t.findSome? Exchange.read? = some r₀ ∧ Writes errand r₀ r
  | .finishCycle _ _ status _, _ => status = .completed
  | _, _ => True

/-- The call writes no record of an instance. -/
def sparesRecords : Call → Bool
  | .updateInstance _ | .finishCycle .. => false
  | _ => true

theorem mayWrite_of_sparesRecords {errand : Errand} {call : Call} {t : Trace}
    (h : sparesRecords call = true) : MayWrite errand call t := by
  unfold MayWrite
  split
  · simp [sparesRecords] at h
  · simp [sparesRecords] at h
  · trivial

/-- Calls that write no record may be made anywhere. -/
theorem ensures_sparing {errand : Errand} {p : Program Unit} {t : Trace}
    (only : p.Only fun call => sparesRecords call = true) :
    (traced Exchange.IsNamed (MayWrite errand)).Ensures (fun _ _ => True) p t :=
  ensures_kept only (fun _ _ spares _ => mayWrite_of_sparesRecords spares)
    (fun _ _ _ _ _ => trivial) trivial

/-- **An errand writes only what it may.** -/
theorem ensures_errand (c : HistorySyncConfig) (errand : Errand) :
    (traced Exchange.IsNamed (MayWrite errand)).Ensures (fun _ _ => True)
      (errand.program c) [] := by
  cases errand with
  | start i =>
    have start : (traced Exchange.IsNamed (MayWrite (.start i))).Ensures (Started i)
        (startCycle i) [] := by
      refine (ensures_start i).allow fun call t may => ?_
      unfold MayWrite
      split
      · obtain ⟨r₀, k, time, read, -, -, rfl⟩ := may
        exact ⟨r₀, read, .begun k time⟩
      · exact may.elim
      · trivial
    exact start.bind fun _ _ _ _ => ensures_done trivial
  | complete i =>
    have only : (finalizeCycle i .completed).Only fun call =>
        ∀ j k status time, call ≠ .finishCycle j k status time :=
      finalizeCycle_only i _ (by simp) (by simp) (by simp) (by simp) (by simp)
    have complete : (traced Exchange.IsNamed (MayWrite (.complete i))).Ensures (fun _ _ => True)
        (finalizeCycle i .completed) [] := by
      refine (ensures_finalize i .completed).allowOnly only fun call t other may => ?_
      unfold MayWrite
      split
      · obtain ⟨r₀, read, makes⟩ := may _ rfl
        cases makes with
        | finalize time => exact ⟨r₀, read, .completed time⟩
      · exact absurd rfl (other _ _ _ _)
      · trivial
    exact complete.bind fun _ _ _ _ => ensures_done trivial
  | worker i h =>
    have only : (cycleRound c i h).Only fun call => ∀ t, MayWrite (.worker i h) call t :=
      cycleRound_only c i h (fun _ => trivial) (fun _ _ => trivial) (fun _ => trivial)
        (fun _ _ => rfl) (fun _ => trivial) (fun _ _ => trivial)
    exact ensures_of_allowed only
  | cancel i =>
    exact ensures_sparing (Only.bind (cancelCycle_only i rfl fun _ => rfl) fun _ => only_pure _)
  | announce i payload =>
    exact ensures_sparing (Only.bind
      (recordNotification_only i payload rfl rfl rfl fun _ => rfl) fun _ => only_pure _)

/-! ## Errands at the same time -/

/-- Any errands on a memory, before the first call. -/
def errands (c : HistorySyncConfig) (tasks : Party → Errand) (m : Memory) : System Unit :=
  System.start (fun p => (tasks p).program c) m

variable {c : HistorySyncConfig} {tasks : Party → Errand} {m : Memory} {σ τ : System Unit}
  {i : InstanceId} {p : Party} {e : Entry} {log before : List Entry} {r r₀ r' : Instance}

/-- No history sync was begun. -/
def Unbegun (m : Memory) : Prop :=
  ∀ i r, m.instances.find? i = some r → r.sync = .idle ∧ r.cycle = none

/-- No caller that completes a history sync has found it idle. -/
def CompletesBegun (tasks : Party → Errand) (log : List Entry) : Prop :=
  ∀ e ∈ log, (tasks e.party).completes = true → ∀ r ∈ e.exchange.read?, r.sync ≠ .idle

/-- The last call of the log is that of a caller that completes a history sync and has found the
record `r`. -/
def Completes (tasks : Party → Errand) (log : List Entry) (r : Instance) : Prop :=
  ∃ e before, log = e :: before ∧ (tasks e.party).completes = true ∧
    (System.trace e.party before).findSome? Exchange.read? = some r

/-- The record that an errand stores: its own change of what it has read, or the end of the stored
cycle. -/
inductive Stores (m : Memory) (tasks : Party → Errand) (i : InstanceId) (e : Entry)
    (before : List Entry) : Instance → Prop
  | begun {r₀ : Instance} (k : CycleId) (time : Timestamp) :
      Stores m tasks i e before (r₀.beginSync k time)
  | completed {r₀ : Instance} (time : Timestamp) (caller : (tasks e.party).completes = true)
      (found : row m.instances i (lastRead e.party before) = some r₀)
      (read : (System.trace e.party before).findSome? Exchange.read? = some r₀) :
      Stores m tasks i e before (r₀.finishSync .completed time)
  | ended {r₀ r : Instance} {k : CycleId} {time : Timestamp}
      (found : row m.instances i before = some r₀) (current : r₀.cycle = some k)
      (written : r = r₀ ∨ r = r₀.finishSync .completed time) : Stores m tasks i e before r

theorem Run.mayWrite (run : System.Run service (errands c tasks m) σ)
    (he : e :: before <:+ σ.log) :
    MayWrite (tasks e.party) e.call (System.trace e.party before) :=
  System.may_of_lawful ((run.made e.party).lawful (ensures_errand c _) (Run.isNamed run)) he

/-- **What is stored**, wherever something is stored. -/
theorem Run.stores_errand (run : System.Run service (errands c tasks m) σ)
    (he : e :: before <:+ σ.log) (stored : e.exchange.stored? i = some r) :
    Stores m tasks i e before r := by
  have may := Run.mayWrite run he
  rcases stored?_cases stored with updated | ⟨k, status, time, eq⟩
  · obtain ⟨call, named⟩ := call_of_updated? updated
    rw [call] at may
    obtain ⟨r₀, read, writes⟩ := may
    have found := Run.row_lastRead run ((List.suffix_cons _ _).trans he) read
    generalize errand : tasks e.party = task at writes
    cases writes with
    | begun k time => exact .begun k time
    | completed time =>
      subst named
      exact .completed time (by rw [errand]; rfl) found read
  · obtain ⟨u, m', run', -, rfl, served⟩ := run.exists_served he List.nil_suffix
    obtain ⟨q, call, a⟩ := e
    cases eq
    obtain rfl : status = .completed := may
    obtain ⟨r₀, found, current, written⟩ := service_finishCycle served
    rw [(Run.told run').record] at found
    exact .ended found current written

/-- **A history sync that is idle** has been idle all the time. -/
theorem Run.row_idle (run : System.Run service (errands c tasks m) σ) (fresh : Unbegun m)
    (hl : log <:+ σ.log) (found : row m.instances i log = some r) (idle : r.sync = .idle) :
    ∀ before, before <:+ log → row m.instances i before = some r := by
  induction log generalizing r with
  | nil =>
    intro before hb
    rw [List.suffix_nil.1 hb]
    exact found
  | cons e log ih =>
    have earlier : log <:+ σ.log := (List.suffix_cons e log).trans hl
    intro before hb
    rcases List.suffix_cons_iff.1 hb with rfl | hb
    · exact found
    rw [row_cons] at found
    cases stored : e.exchange.stored? i with
    | none =>
      rw [stored, Option.none_or] at found
      exact ih earlier found idle before hb
    | some r₁ =>
      rw [stored, Option.some_or, Option.some_inj] at found
      subst found
      rcases Run.stores_errand run hl stored with _ | _ | ⟨old, current, rfl | rfl⟩
      · cases idle
      · cases idle
      · have unbegun := (fresh i _ (ih earlier old idle [] List.nil_suffix)).2
        rw [unbegun] at current
        cases current
      · cases idle

theorem Run.cycle_of_idle (run : System.Run service (errands c tasks m) σ) (fresh : Unbegun m)
    (hl : log <:+ σ.log) (found : row m.instances i log = some r) (idle : r.sync = .idle) :
    r.cycle = none :=
  (fresh i r (Run.row_idle run fresh hl found idle [] List.nil_suffix)).2

/-- A caller that completes a history sync has found it as it says. -/
theorem CompletesBegun.read (begun : CompletesBegun tasks log) (he : before <:+ log)
    (caller : (tasks p).completes = true)
    (read : (System.trace p before).findSome? Exchange.read? = some r) : r.sync ≠ .idle := by
  obtain ⟨e, earlier, hl, rfl, look⟩ := System.exists_of_findSome? read
  exact begun e ((hl.trans he).subset List.mem_cons_self) caller r look

/-- **A history sync that is not idle has a cycle**, unless one was completed that was idle. -/
theorem Run.isSome_cycle (run : System.Run service (errands c tasks m) σ) (fresh : Unbegun m)
    (begun : CompletesBegun tasks σ.log) (hl : log <:+ σ.log)
    (found : row m.instances i log = some r) (active : r.sync ≠ .idle) :
    r.cycle.isSome = true := by
  -- strong induction on the log: the cycle that is written back may have been read long before
  induction hn : log.length using Nat.strongRecOn generalizing log r with
  | ind n ih =>
    subst hn
    cases log with
    | nil => exact absurd (fresh i r found).1 active
    | cons e log =>
      have earlier : log <:+ σ.log := (List.suffix_cons e log).trans hl
      rw [row_cons] at found
      cases stored : e.exchange.stored? i with
      | none =>
        rw [stored, Option.none_or] at found
        exact ih _ (Nat.lt_succ_self _) earlier found active rfl
      | some r₁ =>
        rw [stored, Option.some_or, Option.some_inj] at found
        subst found
        rcases Run.stores_errand run hl stored with _ | ⟨time, caller, old, read⟩ |
          ⟨old, current, rfl | rfl⟩
        · rfl
        · have suffix := lastRead_suffix e.party log
          have kept := ih _ (Nat.lt_succ_of_le suffix.length_le) (suffix.trans earlier) old
            (begun.read earlier caller read) rfl
          exact kept
        · simp [current]
        · simp [Instance.finishSync, current]

/-! ## The changes of a status -/

/-- The change of a status at an entry of the log. -/
theorem Run.changes (run : System.Run service (errands c tasks m) σ) (fresh : Unbegun m)
    (he : e :: before <:+ σ.log) (old : row m.instances i before = some r)
    (new : row m.instances i (e :: before) = some r') (change : r'.sync ≠ r.sync) :
    r.sync.Next r'.sync ∨ r.sync = .idle ∧ r'.sync = .completed ∧
      Completes tasks (e :: before) r := by
  have earlier : before <:+ σ.log := (List.suffix_cons e before).trans he
  rw [row_cons] at new
  cases stored : e.exchange.stored? i with
  | none =>
    rw [stored, Option.none_or, old] at new
    cases new
    exact absurd rfl change
  | some r₁ =>
    rw [stored, Option.some_or, Option.some_inj] at new
    subst new
    rcases Run.stores_errand run he stored with ⟨k, time⟩ | ⟨time, caller, found, read⟩ |
      ⟨found, current, rfl | rfl⟩
    · left
      cases status : r.sync with
      | idle => exact .begun
      | running => exact absurd status.symm change
      | completed => exact .begunAgain
    · cases status : r.sync with
      | idle =>
        have same := Run.row_idle run fresh earlier old status _ (lastRead_suffix e.party before)
        rw [found, Option.some_inj] at same
        exact .inr ⟨rfl, rfl, e, before, rfl, caller, same ▸ read⟩
      | running => exact .inl .completed
      | completed => exact absurd status.symm change
    · rw [old, Option.some_inj] at found
      exact absurd (congrArg Instance.sync found.symm) change
    · rw [old, Option.some_inj] at found
      subst found
      cases status : r.sync with
      | idle =>
        rw [Run.cycle_of_idle run fresh earlier old status] at current
        cases current
      | running => exact .inl .completed
      | completed => exact absurd status.symm change

/-- **The status of a history sync goes on step by step**, from idle to running, from running to
completed and back to running, with one exception: a caller that completes a history sync that it
has found idle. Without such a caller every history sync that is not idle has a cycle. -/
theorem statuses_linear (fresh : Unbegun m) (run : System.Run service (errands c tasks m) σ)
    (step : System.Step service σ τ) (old : σ.memory.instances.find? i = some r)
    (new : τ.memory.instances.find? i = some r') :
    (r'.sync ≠ r.sync → r.sync.Next r'.sync ∨
      r.sync = .idle ∧ r'.sync = .completed ∧ Completes tasks τ.log r) ∧
    (CompletesBegun tasks τ.log → (r'.sync ≠ r.sync → r.sync.Next r'.sync) ∧
      (r'.sync ≠ .idle → r'.cycle.isSome = true)) := by
  have after : System.Run service (errands c tasks m) τ := run.tail step
  rw [(Run.told run).record] at old
  rw [(Run.told after).record] at new
  have changes : r'.sync ≠ r.sync → r.sync.Next r'.sync ∨
      r.sync = .idle ∧ r'.sync = .completed ∧ Completes tasks τ.log r := by
    intro change
    cases step with
    | call left served => exact Run.changes after fresh List.suffix_rfl old new change
  refine ⟨changes, fun begun => ⟨fun change => ?_, fun active => ?_⟩⟩
  · rcases changes change with next | ⟨idle, -, e, before, log, caller, read⟩
    · exact next
    · have suffix : before <:+ τ.log := log ▸ List.suffix_cons e before
      exact absurd idle (begun.read suffix caller read)
  · exact Run.isSome_cycle after fresh begun List.suffix_rfl new active

/-! ## Sample runs -/

namespace Sample

/-- The first party starts a cycle, and all others complete it. -/
def task (p : Party) : Errand :=
  if p = 0 then .start record.id else .complete record.id

/-- The parties of the sample have made their calls in this order. -/
def errandsAfter (schedule : List Party) : System Unit :=
  System.play timed? schedule (errands {} task memory)

theorem run_errandsAfter (schedule : List Party) :
    System.Run service (errands {} task memory) (errandsAfter schedule) :=
  System.run_play service_of_timed? schedule _

theorem unbegun_memory : Unbegun memory := by
  intro i r found
  rw [memory, Table.find?_insert, Table.find?_empty, Option.none_or] at found
  split at found
  · cases found
    exact ⟨rfl, rfl⟩
  · cases found

/-- The start has returned, and a caller is about to complete the cycle. -/
def begun : System Unit :=
  errandsAfter (List.replicate 7 0 ++ [1, 1])

/-- A caller is about to complete a history sync that was never begun. -/
def unbegun : System Unit :=
  errandsAfter [1, 1]

/-- The caller has overwritten the record. -/
def completion (s : System Unit) : System Unit :=
  System.play timed? [1] s

theorem step_completion {s : System Unit} (call : Call) {rest : call.Answer → Program Unit}
    {a : call.Answer} {m : Memory} (left : s.parties 1 = .ask call rest)
    (answered : timed? call s.memory = some (a, m)) : System.Step service s (completion s) := by
  simp only [completion, System.play, left, answered]
  exact .call left (service_of_timed? _ _ _ _ answered)

end Sample

/-- A cycle is started, and a caller completes it. -/
theorem statuses_linear_sample :
    SyncStatus.running.Next .completed ∧ ∃ r,
      (Sample.completion Sample.begun).memory.instances.find? Sample.record.id = some r ∧
        r.sync = .completed ∧ r.cycle.isSome = true := by
  let running := Sample.record.beginSync ⟨0⟩ ⟨0, 0⟩
  let completed := running.finishSync .completed ⟨0, 0⟩
  have step : System.Step service Sample.begun (Sample.completion Sample.begun) :=
    Sample.step_completion (.updateInstance completed) rfl rfl
  have begun : CompletesBegun Sample.task (Sample.completion Sample.begun).log := by
    unfold CompletesBegun
    decide
  have old : Sample.begun.memory.instances.find? Sample.record.id = some running := rfl
  have new : (Sample.completion Sample.begun).memory.instances.find? Sample.record.id =
    some completed := rfl
  have linear := (statuses_linear Sample.unbegun_memory (Sample.run_errandsAfter _) step old
    new).2 begun
  exact ⟨linear.1 (by decide), completed, rfl, rfl, linear.2 (by decide)⟩

/-- A caller completes a history sync that was never begun: the status goes from idle to completed,
and there is no cycle. -/
theorem status_skipped :
    (¬∀ σ τ, System.Run service (errands {} Sample.task Sample.memory) σ →
      System.Step service σ τ → ∀ i r r', σ.memory.instances.find? i = some r →
        τ.memory.instances.find? i = some r' → r'.sync ≠ r.sync → r.sync.Next r'.sync) ∧
    ¬∀ σ, System.Run service (errands {} Sample.task Sample.memory) σ →
      ∀ i r, σ.memory.instances.find? i = some r → r.sync = .completed →
        r.cycle.isSome = true := by
  let completed := Sample.record.finishSync .completed ⟨0, 0⟩
  have run : System.Run service (errands {} Sample.task Sample.memory) Sample.unbegun :=
    Sample.run_errandsAfter _
  have step : System.Step service Sample.unbegun (Sample.completion Sample.unbegun) :=
    Sample.step_completion (.updateInstance completed) rfl rfl
  constructor
  · intro linear
    have next := linear _ _ run step Sample.record.id Sample.record completed rfl rfl (by decide)
    cases next
  · intro cycles
    have cycle := cycles _ (run.tail step) Sample.record.id completed rfl rfl
    cases cycle

end HistorySync

end MessageGateway
