import MessageGateway.Proofs.HistorySync.Balance
import Mathlib.Data.List.Perm.Subperm

/-!
# No announcement is accepted twice

Announcements come, are processed and are forgotten, and cycles start and end, at the same time and
in any order. Each party does its jobs one after the other, and what was announced to one instance
is processed by one party only, as often as it likes. (If two parties processed it at the same
time, both could find the same announcement pending.) Then there are no more acceptances than
announcements under any name, so that no announcement is accepted twice.

## Main definitions

* `HistorySync.Job`, `HistorySync.working`: parties, each of which does its jobs in turn
* `HistorySync.watch`: what one party may do to the announcements of an instance, and what the
  others may do in the meantime

## Main results

* `HistorySync.ensures_turns`: jobs in turn keep the balance
* `HistorySync.Run.timed`: an announcement is done exactly if it has a time
* `HistorySync.Run.acceptances_le`: no more acceptances than announcements, under each name
* `HistorySync.processed_once`: a processing alone does what it has to do, and in a run of many jobs
  no announcement is accepted twice
-/

namespace MessageGateway

open Program Setting

namespace HistorySync

/-! ## Jobs -/

/-- An operation of the coordinator, or the task of a cycle. -/
inductive Job where
  /-- A cycle is started. -/
  | start (i : InstanceId)
  /-- A cycle is cancelled. -/
  | cancel (i : InstanceId)
  /-- A caller ends a cycle. -/
  | finalize (i : InstanceId) (status : SyncStatus)
  /-- The task of a cycle. -/
  | worker (i : InstanceId) (h : CycleHandle)
  /-- An announcement is stored. -/
  | announce (i : InstanceId) (payload : List UInt8)
  /-- What was announced is processed. -/
  | process (i : InstanceId)
  /-- What was announced is forgotten. -/
  | purge (i : InstanceId)

/-- The program of a job. -/
def Job.program (c : HistorySyncConfig) : Job → Program Unit
  | .start i => do let _ ← startCycle i
  | .cancel i => do let _ ← cancelCycle i
  | .finalize i status => do let _ ← finalizeCycle i status
  | .worker i h => cycleRound c i h
  | .announce i payload => do let _ ← recordNotification i payload
  | .process i => do let _ ← processPending i
  | .purge i => do let _ ← MessageGateway.purge i

/-- Jobs one after the other. -/
def Job.inTurn (c : HistorySyncConfig) : List Job → Program Unit
  | [] => pure ()
  | job :: jobs => do
    job.program c
    inTurn c jobs

/-- Parties on a memory, each with jobs to do in turn, before the first call. -/
def working (c : HistorySyncConfig) (jobs : Party → List Job) (m : Memory) : System Unit :=
  System.start (fun p => Job.inTurn c (jobs p)) m

/-- Jobs other than processing never call the processor. -/
theorem Job.only (c : HistorySyncConfig) {job : Job} (other : ∀ i, job ≠ .process i) :
    (job.program c).Only fun call => MayStore call ∧ ∀ p, call ≠ .processPayload p := by
  cases job with
  | start i =>
    exact Only.bind (startCycle_only i (by simp [MayStore]) (by simp [MayStore])
      (by simp [MayStore]) (by simp [MayStore]) (by simp [MayStore]) (by simp [MayStore])
      (by simp [MayStore]) (by simp [MayStore])) fun _ => only_pure _
  | cancel i =>
    exact Only.bind (cancelCycle_only i (by simp [MayStore]) (by simp [MayStore])) fun _ =>
      only_pure _
  | finalize i status =>
    exact Only.bind (finalizeCycle_only i status (by simp [MayStore]) (by simp [MayStore])
      (by simp [MayStore]) (by simp [MayStore]) (by simp [MayStore])) fun _ => only_pure _
  | worker i h =>
    exact cycleRound_only c i h (by simp [MayStore]) (by simp [MayStore]) (by simp [MayStore])
      (by simp [MayStore]) (by simp [MayStore]) (by simp [MayStore])
  | announce i payload =>
    refine Only.bind ?_ fun _ => only_pure _
    refine Only.bindExcept (Only.orFail (only_request (by simp [MayStore]))) fun r => ?_
    refine Only.bindExcept (Only.map (only_request (by simp [MayStore]))) fun id => ?_
    refine Only.bindExcept (Only.map (only_request (by simp [MayStore]))) fun time => ?_
    exact Only.orFail (only_request (by simp [MayStore, SyncPayload.make]))
  | process i => exact absurd rfl (other i)
  | purge i =>
    exact Only.bind (Only.orFail (only_request (by simp [MayStore]))) fun _ => only_pure _

theorem Job.inTurn_only (c : HistorySyncConfig) (jobs : List Job) :
    (Job.inTurn c jobs).Only MayStore := by
  induction jobs with
  | nil => exact only_pure _
  | cons job jobs ih =>
    refine Only.bind ?_ fun _ => ih
    by_cases process : ∃ i, job = .process i
    · obtain ⟨i, rfl⟩ := process
      refine Only.bind ?_ fun _ => only_pure _
      refine Only.bindExcept (Only.orFail (only_request trivial)) fun r => ?_
      refine Only.bindExcept (Only.orFail (only_request trivial)) fun ps => ?_
      exact processAll_only (fun _ _ => trivial) trivial fun _ _ => ⟨rfl, rfl⟩
    · exact (Job.only c fun i eq => process ⟨i, eq⟩).mono fun _ h => h.1

variable {m m' : Memory} {c : Call} {a : c.Answer} {p q : SyncPayload} {i : InstanceId}
  {s t : Scene} {party worker : Party} {old ps : List SyncPayload}

/-! ## Parties in their settings -/

/-- What a party may do to the announcements of `i`, and what the others may do in the meantime:
only the worker accepts them, and only what is due. -/
def watch (old : List SyncPayload) (i : InstanceId) (worker party : Party) : Setting Scene where
  Serves c s a t := ∃ m, payloadService s.memory c a m ∧ t = s.next party c a m
  Rely s t := party = worker → Undisturbed old i s t
  Allowed c s := MayStore c ∧ ∀ p, c = .processPayload p → p.owner = i →
    party = worker ∧ acceptances s (i, p.id) < arrivals old s (i, p.id)
  rely_self _ _ := .refl _
  rely_trans h h' same := (h same).trans (h' same)

theorem coherent_watch (old : List SyncPayload) (i : InstanceId) (worker : Party) :
    System.Coherent payloadService (watch old i worker) where
  serves served := ⟨_, served, rfl⟩
  own _ _ _ _ := .refl _
  others {party other s c a m} _ allowed served ne same :=
    undisturbed_next served allowed.1 (fun p hp own => by
      have party := (allowed.2 p (call_of_processed? hp) own).1
      exact ne (same.trans party.symm)) party

/-- A call that does not process announcements of `i` is one of those on which others rely. -/
theorem silent_watch (may : MayStore c) (other : ∀ p, c = .processPayload p → p.owner ≠ i) :
    (watch old i worker party).Silent c := by
  intro s _
  refine ⟨⟨may, fun p eq own => absurd own (other p eq)⟩, ?_⟩
  rintro a t ⟨m, served, rfl⟩ -
  exact undisturbed_next served may (fun p hp => other p (call_of_processed? hp)) party

theorem silent_now : (watch old i worker party).Silent .now :=
  silent_watch (c := .now) trivial (by simp)

theorem silent_findInstance (j : InstanceId) :
    (watch old i worker party).Silent (.findInstance j) :=
  silent_watch (c := .findInstance j) trivial (by simp)

/-- Others rely on all that a job does, unless it processes. -/
theorem Job.silent (c : HistorySyncConfig) {job : Job} (other : ∀ i, job ≠ .process i) :
    (job.program c).Only (watch old i worker party).Silent :=
  (Job.only c other).mono fun _ h => silent_watch h.1 fun p eq => absurd eq (h.2 p)

/-! ## Jobs in their settings -/

/-- Calls on which others rely keep what nobody else spoils. -/
theorem ensures_balance {α : Type} {K : Scene → Prop} {program : Program α}
    (only : program.Only (watch old i worker party).Silent)
    (kept : ∀ {s t}, (watch old i worker party).Rely s t → K s → K t) (h : K s) :
    (watch old i worker party).Ensures (fun _ t => K t) program s :=
  ensures_of_only only fun _ _ rely => kept rely h

/-- Nobody else spoils the balance of the worker. -/
theorem ready_of_rely (rely : (watch old i worker party).Rely s t)
    (ready : party = worker → Ready old i s) (same : party = worker) : Ready old i t :=
  (ready same).of_undisturbed (rely same)

/-- **The worker processes what is due**, and each announcement is accepted once. -/
theorem ensures_worked (ready : Ready old i s) (due : Due old i ps s) :
    (watch old i worker worker).Ensures (fun _ t => Ready old i t) (processAll ps).run s := by
  induction ps generalizing s with
  | nil => exact ensures_pure fun t rely => ready.of_undisturbed (rely rfl)
  | cons p ps ih =>
    have process : (watch old i worker worker).Ensures
        (fun said t => (said = .ok () → Marking old i p ps t) ∧
          ∀ e, said = .error e → Ready old i t ∧ Due old i ps t) (processPayload p) s := by
      refine ensures_request fun t rely => ?_
      have ready := ready.of_undisturbed (rely rfl)
      have due := due.of_undisturbed (rely rfl)
      refine ⟨⟨trivial, fun q eq own => ?_⟩, ?_⟩
      · cases eq
        exact ⟨rfl, due.more p List.mem_cons_self⟩
      · rintro said u ⟨m, served, rfl⟩ v rely
        refine ⟨fun ok => ?_, fun e error => ?_⟩
        · subst ok
          exact (due.accept ready served rfl worker).of_undisturbed (rely rfl)
        · subst error
          have others := (rely rfl).after served trivial (by simp [Exchange.processed?])
          exact ⟨ready.of_undisturbed others, due.tail.of_undisturbed others⟩
    refine process.bindLift fun said t self hQ => ?_
    obtain ⟨ok, error⟩ := hQ t self
    cases said with
    | error e =>
      obtain ⟨ready, due⟩ := error e rfl
      exact ih ready due
    | ok _ =>
      have clock : (watch old i worker worker).Ensures (fun _ u => Marking old i p ps u) now t :=
        ensures_balance (only_request silent_now) (fun rely h => h.of_undisturbed (rely rfl))
          (ok rfl)
      refine clock.bindLift fun (time : Timestamp) u self hQ => ?_
      have mark : (watch old i worker worker).Ensures
          (fun _ v => Ready old i v ∧ Due old i ps v) (markPayload p.id .done (some time)) u := by
        refine ensures_request fun v rely => ⟨⟨⟨rfl, rfl⟩, by simp⟩, ?_⟩
        rintro a w ⟨m, served, rfl⟩ x rely'
        have marking := (hQ u self).of_undisturbed (rely rfl)
        obtain ⟨ready, due⟩ := marking.mark served worker
        exact ⟨ready.of_undisturbed (rely' rfl), due.of_undisturbed (rely' rfl)⟩
      refine mark.bindOrFail (fun _ v self hQ => ?_) fun _ _ _ hQ => hQ.1
      obtain ⟨ready, due⟩ := hQ v self
      exact (ih ready due).bindExcept (fun _ _ _ hQ => ensures_pure hQ) fun _ _ _ hQ => hQ

/-- **The worker processes** what is pending. -/
theorem ensures_own (ready : Ready old i s) :
    (watch old i worker worker).Ensures (fun _ t => Ready old i t) (processPending i) s := by
  have find : (watch old i worker worker).Ensures (fun _ t => Ready old i t) (findInstance i) s :=
    ensures_balance (only_request (silent_findInstance i))
      (fun rely h => h.of_undisturbed (rely rfl)) ready
  refine find.bindOrFail (fun r t self hQ => ?_) fun _ _ _ hQ => hQ
  have list : (watch old i worker worker).Ensures
      (fun a u => Ready old i u ∧ ∀ ps, a = .ok ps → Due old i ps u)
      (pendingPayloads i r.cycle) t := by
    refine ensures_request fun u rely => ⟨⟨trivial, by simp⟩, ?_⟩
    rintro a v ⟨m, served, rfl⟩ w rely'
    have ready := hQ u rely
    have others := (rely' rfl).after served trivial (by simp [Exchange.processed?])
    refine ⟨ready.of_undisturbed others, fun ps eq => ?_⟩
    subst eq
    cases answer?_of_payloadService served rfl
    exact (ready.due r.cycle).of_undisturbed others
  refine list.bindOrFail (fun ps u self hQ => ?_) fun _ _ _ hQ => hQ.1
  obtain ⟨ready, due⟩ := hQ u self
  exact ensures_worked ready (due ps rfl)

/-- Processing for another instance leaves the balance alone. -/
theorem ensures_foreign {j : InstanceId} (foreign : j ≠ i)
    (ready : party = worker → Ready old i s) : (watch old i worker party).Ensures
      (fun _ t => party = worker → Ready old i t) (processPending j) s := by
  have find : (watch old i worker party).Ensures (fun _ t => party = worker → Ready old i t)
      (findInstance j) s :=
    ensures_balance (only_request (silent_findInstance j)) ready_of_rely ready
  refine find.bindOrFail (fun r t self hQ => ?_) fun _ _ _ hQ => hQ
  have list : (watch old i worker party).Ensures
      (fun a u => (party = worker → Ready old i u) ∧ ∀ ps, a = .ok ps → ∀ p ∈ ps, p.owner = j)
      (pendingPayloads j r.cycle) t := by
    refine ensures_request fun u rely => ⟨⟨trivial, by simp⟩, ?_⟩
    rintro a v ⟨m, served, rfl⟩ w rely'
    have others : (watch old i worker party).Rely u
        (u.next party (.pendingPayloads j r.cycle) a m) := fun _ =>
      undisturbed_next served trivial (by simp [Exchange.processed?]) party
    refine ⟨ready_of_rely rely' (ready_of_rely others (hQ u rely)), fun ps eq p hp => ?_⟩
    subst eq
    cases answer?_of_payloadService served rfl
    exact (mem_pending.1 hp).2.1
  refine list.bindOrFail (fun ps u self hQ => ?_) fun _ _ _ hQ => hQ.1
  obtain ⟨ready, own⟩ := hQ u self
  have silent : ∀ p ∈ ps, (watch old i worker party).Silent (.processPayload p) := by
    refine fun p hp => silent_watch (c := .processPayload p) trivial fun q eq => ?_
    cases eq
    rw [own ps rfl p hp]
    exact foreign
  exact ensures_balance (processAll_only silent silent_now fun x time =>
    silent_watch (c := .markPayload x .done (some time)) ⟨rfl, rfl⟩ (by simp)) ready_of_rely ready

/-- **Jobs in turn** keep the balance, if only the worker processes what was announced to `i`. -/
theorem ensures_turns (c : HistorySyncConfig) {jobs : List Job}
    (own : .process i ∈ jobs → party = worker) (ready : party = worker → Ready old i s) :
    (watch old i worker party).Ensures (fun _ t => party = worker → Ready old i t)
      (Job.inTurn c jobs) s := by
  induction jobs generalizing s with
  | nil => exact ensures_pure fun t rely => ready_of_rely rely ready
  | cons job jobs ih =>
    have first : (watch old i worker party).Ensures (fun _ t => party = worker → Ready old i t)
        (job.program c) s := by
      by_cases process : ∃ j, job = .process j
      · obtain ⟨j, rfl⟩ := process
        have processed : (watch old i worker party).Ensures
            (fun _ t => party = worker → Ready old i t) (processPending j) s := by
          by_cases same : j = i
          · subst same
            obtain rfl := own List.mem_cons_self
            exact (ensures_own (ready rfl)).mono fun _ _ _ h _ => h
          · exact ensures_foreign same ready
        exact processed.bind fun _ _ _ hQ => ensures_pure hQ
      · exact ensures_balance (Job.silent c fun j eq => process ⟨j, eq⟩) ready_of_rely ready
    exact first.bind fun _ t self hQ =>
      ih (fun later => own (List.mem_cons_of_mem _ later)) (hQ t self)

/-! ## Runs -/

section

variable {config : HistorySyncConfig} {jobs : Party → List Job} {σ : System Unit} {ω : Type}
  {outside : (c : Call) → ω → c.Answer × ω} {accept : SyncPayload → Except SyncError Unit}
  {r : Instance}

/-- **An announcement is done exactly if it has a time**, unless it is one of the first. -/
theorem Run.timed (run : System.Run payloadService (working config jobs m) σ)
    (hq : q ∈ σ.memory.payloads.rows) :
    q ∈ m.payloads.rows ∨ (q.status = .done ↔ q.processed.isSome = true) := by
  induction run generalizing q with
  | refl => exact .inl hq
  | @tail τ υ run step ih =>
    cases step with
    | @call party c rest a m' left served =>
      have may : MayStore c := by
        have made := System.Run.made run party
        rw [left] at made
        exact made.next_only (Job.inTurn_only config (jobs party))
      change q ∈ m'.payloads.rows at hq
      obtain rows | ⟨id, time, rows⟩ | ⟨keep, rows⟩ := rows_of_payloadService served may
      · rw [rows, List.mem_append, Option.mem_toList] at hq
        rcases hq with old | new
        · exact ih old
        · obtain ⟨pending, untimed⟩ : q.status = .pending ∧ q.processed = none := by
            obtain rfl := call_of_announced? new
            exact may
          right
          rw [pending, untimed]
          exact iff_of_false (by simp) (by simp)
      · rw [rows] at hq
        obtain ⟨p, hp, rfl⟩ := List.mem_map.1 hq
        split
        · exact .inr (iff_of_true rfl rfl)
        · exact ih hp
      · rw [rows] at hq
        exact ih (List.mem_filter.1 hq).1

theorem ready_start (parties : Party → Program Unit) (m : Memory) (i : InstanceId) :
    Ready m.payloads.rows i (System.start parties m).toScene := by
  intro x
  have least : waiting (System.start parties m).toScene (i, x) ≤
      arrivals m.payloads.rows (System.start parties m).toScene (i, x) :=
    countOf_le_of_sublist List.filter_sublist
  exact (Nat.zero_add _).trans_le least

/-- **No more acceptances than announcements** under any name, if only one party processes what was
announced to the instance. -/
theorem Run.acceptances_le (apart : ∀ party, .process i ∈ jobs party → party = worker)
    (run : System.Run payloadService (working config jobs m) σ) (x : PayloadId) :
    acceptances σ.toScene (i, x) ≤ arrivals m.payloads.rows σ.toScene (i, x) := by
  have start : System.AllEnsure (watch m.payloads.rows i worker)
      (fun party _ t => party = worker → Ready m.payloads.rows i t) (working config jobs m) :=
    fun party => ⟨fun _ => .refl _,
      ensures_turns config (apart party) fun _ => ready_start _ m i⟩
  induction run with
  | refl => exact Nat.zero_le _
  | @tail τ υ run step ih =>
    have all := System.Run.allEnsure (coherent_watch m.payloads.rows i worker) start run
    cases step with
    | @call party c rest a m' left served =>
      -- nothing is accepted that was not due right before
      obtain ⟨may, due⟩ := all.allowed left
      change acceptances (τ.toScene.next party c a m') (i, x) ≤
        arrivals _ (τ.toScene.next party c a m') (i, x)
      rw [acceptances_next, arrivals_next]
      by_cases here : ∃ p ∈ Exchange.processed? ⟨c, a⟩, p.key = (i, x)
      · obtain ⟨p, hp, key⟩ := here
        obtain rfl : p.id = x := congrArg Prod.snd key
        have more := (due p (call_of_processed? hp) (congrArg Prod.fst key)).2
        rw [Option.mem_def.1 hp, Option.toList_some, countOf_singleton, if_pos key]
        omega
      · rw [countOf_toList_eq_zero fun p hp key => here ⟨p, hp, key⟩]
        omega

/-- **To each acceptance its announcement**: the announcements that were accepted are some of those
that came. -/
theorem Run.accepted_subperm
    (apart : ∀ i p q, .process i ∈ jobs p → .process i ∈ jobs q → p = q)
    (run : System.Run payloadService (working config jobs m) σ) :
    ((accepted σ.log).map SyncPayload.key).Subperm
      ((arrived σ.log ++ m.payloads.rows).map SyncPayload.key) := by
  refine List.subperm_ext_iff.2 fun k _ => ?_
  obtain ⟨i, x⟩ := k
  by_cases party : ∃ worker, .process i ∈ jobs worker
  · obtain ⟨worker, process⟩ := party
    exact Run.acceptances_le (fun p own => apart i p worker own process) run x
  · have apart : ∀ p, .process i ∈ jobs p → p = 0 := fun p own => absurd ⟨p, own⟩ party
    exact Run.acceptances_le apart run x

/-- **What was announced is processed once.** Processing alone calls the processor for everything
that is pending and came during the current cycle, if there is one, and goes on to the last whatever
is rejected. What is accepted is done, with the time that the clock showed; everything else stays as
it is, and where it is. In a run of any jobs, in which two parties never process for the same
instance, an announcement that has come is done exactly if it has a time, and each acceptance has an
announcement of its own. So if no name is given twice, none is accepted twice. Jobs that are done
one after the other are those of one party, and no two parties process there. -/
theorem processed_once {alone : Solo ω}
    (accepts : ∀ p w, (outside (.processPayload p) w).1 = accept p)
    (found : alone.memory.instances.find? i = some r)
    (apart : ∀ i p q, .process i ∈ jobs p → .process i ∈ jobs q → p = q)
    (run : System.Run payloadService (working config jobs m) σ) :
    (let ps := alone.memory.payloads.pending i r.cycle
      let result := (processPending i).run (Solo.answer outside) alone
      (∀ p, p ∈ ps ↔ p ∈ alone.memory.payloads.rows ∧ p.owner = i ∧ p.status = .pending ∧
        ∀ k, r.cycle = some k → p.cycle = some k) ∧
      result.1 = .ok (ps.countP fun p => (accept p).isOk) ∧
      ∃ vs, Worked accept ps vs
          { alone with log := ⟨.pendingPayloads i r.cycle, .ok ps⟩ :: ⟨.findInstance i, .ok r⟩ ::
            alone.log } result.2 ∧
        ∀ p ∈ alone.memory.payloads.rows,
          (p ∈ ps → accept p = .ok () → ∃ time, ⟨p, .ok time⟩ ∈ vs ∧
            settled vs p = { p with status := .done, processed := some time }) ∧
          ((p ∈ ps → accept p ≠ .ok ()) → settled vs p = p)) ∧
    (∀ p ∈ σ.memory.payloads.rows,
      p ∈ m.payloads.rows ∨ (p.status = .done ↔ p.processed.isSome = true)) ∧
    ((accepted σ.log).map SyncPayload.key).Subperm
      ((arrived σ.log ++ m.payloads.rows).map SyncPayload.key) ∧
    (((arrived σ.log ++ m.payloads.rows).map SyncPayload.id).Nodup →
      ((accepted σ.log).map SyncPayload.id).Nodup) := by
  have each := Run.accepted_subperm apart run
  refine ⟨?_, fun p hp => Run.timed run hp, each, fun distinct => ?_⟩
  · obtain ⟨count, vs, worked⟩ := run_of_ensures (ensures_processPending accepts found)
    have distinct : ((alone.memory.payloads.pending i r.cycle).map SyncPayload.id).Nodup :=
      (List.filter_sublist.map _).nodup alone.memory.payloads.distinct
    exact ⟨fun _ => mem_pending, count, vs, worked, fun p hp =>
      ⟨fun pending => worked.settled_of_accepted distinct pending,
        worked.settled_of_other distinct (fun _ h => (mem_pending.1 h).1) hp⟩⟩
  · obtain ⟨keys, perm, sub⟩ := each
    have names : (keys.map Prod.snd).Perm ((accepted σ.log).map SyncPayload.id) := by
      simpa [SyncPayload.key, Function.comp_def] using perm.map Prod.snd
    have some : (keys.map Prod.snd).Sublist
        ((arrived σ.log ++ m.payloads.rows).map SyncPayload.id) := by
      simpa [SyncPayload.key, Function.comp_def] using sub.map Prod.snd
    exact names.nodup_iff.1 (some.nodup distinct)

end

/-! ## A sample run -/

namespace Sample

/-- An instance on which no history sync was run. -/
def tenant : Instance :=
  .make ⟨"A"⟩ .active

/-- What has come: two announcements, of which the first one is empty. -/
def announcements : Memory where
  instances := Table.empty.insert tenant
  payloads := (Table.empty.insert
    (.make ⟨0⟩ tenant.id SyncPayload.notificationType [] none ⟨0, 0⟩)).insert
      (.make ⟨1⟩ tenant.id SyncPayload.notificationType [1] none ⟨0, 0⟩)

/-- A processor that accepts what is not empty. -/
def isFilled (p : SyncPayload) : Except SyncError Unit :=
  if p.payload.isEmpty then .error (.processor "empty") else .ok ()

/-- The processor is there, and nobody answers anything else. -/
def processor : (c : Call) → Unit → c.Answer × Unit
  | .processPayload p, _ => (isFilled p, ())
  | c, _ => (c.unanswered, ())

/-- The memory answers what it can, and the processor the rest. -/
def processor? (c : Call) (m : Memory) : Option (c.Answer × Memory) :=
  some ((m.answer? c).getD ((processor c ()).1, m))

theorem payloadService_of_processor? (c : Call) (m : Memory) (a : c.Answer) (m' : Memory)
    (h : processor? c m = some (a, m')) : payloadService m c a m' := by
  cases answered : m.answer? c with
  | some b =>
    rw [processor?, answered, Option.getD_some] at h
    cases h
    exact payloadService_of_answer? answered
  | none =>
    rw [processor?, answered, Option.getD_none] at h
    cases h
    cases c <;> first | rfl | cases answered

/-- The first party processes twice, and all others start a cycle. -/
def tasks (p : Party) : List Job :=
  if p = 0 then [.process tenant.id, .process tenant.id] else [.start tenant.id]

theorem apart_tasks (i : InstanceId) (p q : Party) (hp : .process i ∈ tasks p)
    (hq : .process i ∈ tasks q) : p = q := by
  unfold tasks at hp hq
  split at hp <;> split at hq <;> simp_all

/-- The first party is done. -/
def processedTwice : System Unit :=
  System.play processor? (List.replicate 9 0) (working {} tasks announcements)

end Sample

/-- Of two announcements one is accepted, and although there is a second processing it is accepted
once. -/
theorem processed_once_sample :
    ((processPending Sample.tenant.id).run (Solo.answer Sample.processor)
        ⟨Sample.announcements, (), []⟩).1 = .ok 1 ∧
      Sample.processedTwice.parties 0 = .done () ∧
      (accepted Sample.processedTwice.log).length = 1 ∧
      ((accepted Sample.processedTwice.log).map SyncPayload.id).Nodup := by
  let alone : Solo Unit := ⟨Sample.announcements, (), []⟩
  have accepts : ∀ p w, (Sample.processor (.processPayload p) w).1 = Sample.isFilled p :=
    fun _ _ => rfl
  have found : alone.memory.instances.find? Sample.tenant.id = some Sample.tenant := rfl
  have run : System.Run payloadService (working {} Sample.tasks Sample.announcements)
      Sample.processedTwice := System.run_play Sample.payloadService_of_processor? _ _
  obtain ⟨⟨-, count, -⟩, -, -, once⟩ := processed_once accepts found Sample.apart_tasks run
  exact ⟨count, rfl, rfl, once (by decide)⟩

end HistorySync

end MessageGateway
