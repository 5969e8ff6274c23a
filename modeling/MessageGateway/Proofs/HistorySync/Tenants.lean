import MessageGateway.Proofs.HistorySync.Shares

/-!
# Tenants of the coordinator

Requests come one after the other, each with the names and the times that it is to use, and each is
carried out alone. On the shares of the tenants the coordinator is a machine for one tenant at a time:
a request moves the share of its tenant as that machine does, and no other share at all. So a tenant
has the same share and the same results whatever the others ask for.

## Main definitions

* `HistorySync.Turn`, `HistorySync.Turn.act`: a request, and what becomes of it
* `HistorySync.play`: what becomes of requests in turn
* `HistorySync.Share.act`: the machine for one tenant

## Main results

* `HistorySync.follows_act`: a request moves its tenant's share as the machine does, and no other
* `HistorySync.tenants_independent`: a tenant's share and results are those that it has alone
-/

namespace MessageGateway

open Program

namespace HistorySync

/-! ## Requests in turn -/

/-- What is supplied to a request. -/
structure Supply where
  /-- The name for a cycle. -/
  cycle : CycleId
  /-- The name for a payload. -/
  payload : PayloadId
  /-- The times that the clock shows, one after the other. -/
  clock : Nat → Timestamp

/-- Something that is asked of the coordinator for a tenant, or that happens to a task of a
tenant. -/
inductive Request where
  /-- A cycle is started. -/
  | start
  /-- The cycle is cancelled. -/
  | cancel
  /-- A caller ends the cycle. -/
  | finalize (status : SyncStatus)
  /-- An announcement comes. -/
  | record (payload : List UInt8)
  /-- What was announced is processed. -/
  | process
  /-- What was announced is forgotten. -/
  | purge
  /-- The time of the cycle `k` is up. -/
  | expire (k : CycleId)

/-- A request of a tenant, with what is supplied to it. -/
structure Turn where
  /-- The tenant. -/
  owner : InstanceId
  /-- The request. -/
  request : Request
  /-- What is supplied. -/
  supply : Supply

/-- The result of a request. -/
inductive Reply where
  /-- Of the start of a cycle. -/
  | started (r : Except SyncError CycleId)
  /-- Of a cancellation. -/
  | cancelled (r : Bool)
  /-- Of the end of a cycle by a caller. -/
  | finalized (r : Except SyncError Unit)
  /-- Of an announcement. -/
  | recorded (r : Except SyncError SyncPayload)
  /-- Of processing. -/
  | processed (r : Except SyncError Nat)
  /-- Of forgetting. -/
  | purged (r : Except SyncError Unit)
  /-- A task was there whose time was up, or there was none. -/
  | expired (r : Bool)

/-- What a request has had of its surroundings. -/
structure Around where
  /-- How often the clock was read. -/
  readings : Nat := 0
  /-- The tasks that were started. -/
  started : List (InstanceId × CycleHandle) := []

/-- A reading of the clock. -/
def Supply.read (u : Supply) (w : Around) : Timestamp × Around :=
  (u.clock w.readings, { w with readings := w.readings + 1 })

section

variable (elsewhere : (c : Call) → c.Answer) (accept : SyncPayload → Except SyncError Unit)
  (c : HistorySyncConfig)

/-- The surroundings of a request: names and times are supplied, `accept` tells which payloads are
accepted, and a pause ends for the reason `wake`. Nothing else is asked of what lies `elsewhere`. -/
def around (u : Supply) (wake : Wake) : (c : Call) → Around → c.Answer × Around
  | .newCycleId, w => (u.cycle, w)
  | .newPayloadId, w => (u.payload, w)
  | .now, w => u.read w
  | .processPayload p, w => (accept p, w)
  | .pause .., w => (wake, w)
  | .spawn (.cycle i h), w => (w.started.length, { w with started := w.started ++ [(i, h)] })
  | c, w => (elsewhere c, w)

/-- The result of a program that runs alone, and the coordinator afterwards. -/
def State.alone {α : Type} (s : State) (u : Supply) (wake : Wake) (p : Program α) : α × State :=
  let (a, t) := p.run (Solo.answer (around elsewhere accept u wake)) ⟨s.memory, {}, []⟩
  (a, ⟨t.memory, s.waiting ++ t.world.started⟩)

/-- Why a task goes on. -/
def State.wake (s : State) (h : CycleHandle) : Wake :=
  if s.memory.tokens.isFired h.token then .stopped else .elapsed

/-- The result of a request, and the coordinator afterwards. -/
def Turn.act (t : Turn) (s : State) : Reply × State :=
  let carryOut {α : Type} (reply : α → Reply) (p : Program α) : Reply × State :=
    s.alone elsewhere accept t.supply .elapsed (reply <$> p)
  match t.request with
  | .start => carryOut .started (startCycle t.owner)
  | .cancel => carryOut .cancelled (cancelCycle t.owner)
  | .finalize status => carryOut .finalized (finalizeCycle t.owner status)
  | .record payload => carryOut .recorded (recordNotification t.owner payload)
  | .process => carryOut .processed (processPending t.owner)
  | .purge => carryOut .purged (MessageGateway.purge t.owner)
  | .expire k =>
    match s.waiting.find? (isTask t.owner k) with
    | none => (.expired false, s)
    | some (i, h) =>
      State.alone elsewhere accept { s with waiting := s.waiting.eraseP (isTask t.owner k) }
        t.supply (s.wake h) ((fun _ => .expired true) <$> cycleRound c i h)

/-- The results of requests that come in turn, each with its tenant, and the coordinator
afterwards. -/
def play : List Turn → State → List (InstanceId × Reply) × State
  | [], s => ([], s)
  | t :: ts, s =>
    let (reply, s) := t.act elsewhere accept c s
    let (replies, s) := play ts s
    ((t.owner, reply) :: replies, s)

end

/-! ## The machine for one tenant -/

/-- **The machine for one tenant**: the result of a request, and the share afterwards. -/
def Share.act (accept : SyncPayload → Except SyncError Unit) (i : InstanceId) (u : Supply)
    (request : Request) (s : Share) : Reply × Share :=
  let missing : SyncError := .store (.notFound i.text)
  match request with
  | .start =>
    match s.record with
    | none => (.started (.error missing), s)
    | some r => (.started (.ok u.cycle),
        Share.mount { s with record := some (r.beginSync u.cycle (u.clock 0)) } u.cycle)
  | .cancel => (.cancelled s.handle.isSome, s.release)
  | .finalize status =>
    match s.record with
    | none => (.finalized (.error missing), s)
    | some r => (.finalized (.ok ()),
        Share.release { s with record := some (finished r status (u.clock 0)) })
  | .record payload =>
    match s.record with
    | none => (.recorded (.error missing), s)
    | some r =>
      let p := announced r u.payload payload (u.clock 0)
      (.recorded (.ok p), { s with payloads := s.payloads ++ [p] })
  | .process =>
    match s.record with
    | none => (.processed (.error missing), s)
    | some r =>
      let result := handled accept u.read (s.pending r.cycle) s.payloads {}
      (.processed (.ok result.1), { s with payloads := result.2.1 })
  | .purge => (.purged (.ok ()), { s with payloads := [] })
  | .expire k =>
    match s.waiting.find? fun e => decide (e.1 = k) with
    | none => (.expired false, s)
    | some (_, stopped) =>
      let rest := { s with waiting := s.waiting.eraseP fun e => decide (e.1 = k) }
      (.expired true, if stopped then rest else rest.ended k (u.clock 0))

variable {s t : State} {i j : InstanceId} {h : CycleHandle}

/-! ## One request -/

section

variable {elsewhere : (c : Call) → c.Answer} {accept : SyncPayload → Except SyncError Unit}
  {c : HistorySyncConfig} {u : Supply} {wake : Wake} {α : Type} {m : Memory} {w : Around}

/-- The name that a request gives to a payload. -/
def Turn.name? (t : Turn) : Option PayloadId :=
  match t.request with
  | .record _ => some t.supply.payload
  | _ => none

/-- What becomes of a request when the coordinator is at `s`: the share of its tenant moves as the
machine does, and no other moves. -/
structure Follows (accept : SyncPayload → Except SyncError Unit) (t : Turn) (s : State)
    (r : Reply × State) : Prop where
  sound : Sound r.2
  own : (r.1, r.2.share t.owner) = (s.share t.owner).act accept t.owner t.supply t.request
  others : ∀ j, j ≠ t.owner → r.2.share j = s.share j
  named : ∀ p ∈ r.2.memory.payloads.rows,
    (∃ q ∈ s.memory.payloads.rows, q.id = p.id) ∨ t.name? = some p.id

theorem Moves.follows {t : Turn} {s' : State} {share : Share} {reply : Reply}
    (moves : Moves t.owner s s' share)
    (act : (s.share t.owner).act accept t.owner t.supply t.request = (reply, share)) :
    Follows accept t s (reply, s') where
  sound := moves.sound
  own := (congrArg (Prod.mk reply) moves.own).trans act.symm
  others := moves.others
  named p hp := .inl (moves.named p hp)

theorem alone_map {p : Program α} {a : α}
    (h : Yields (around elsewhere accept u wake) p s.memory {} a m w) (reply : α → Reply) :
    s.alone elsewhere accept u wake (reply <$> p) = (reply a, ⟨m, s.waiting ++ w.started⟩) := by
  obtain ⟨log, eq⟩ := h.map reply []
  simp only [State.alone, eq]

theorem share_record (s : State) (i : InstanceId) :
    (s.share i).record = s.memory.instances.find? i := rfl

/-- A request that finds no record changes nothing. -/
theorem follows_missing {t : Turn} {p : Program α} {a : α} {reply : α → Reply} (sound : Sound s)
    (run : Yields (around elsewhere accept u .elapsed) p s.memory {} a s.memory {})
    (act : (s.share t.owner).act accept t.owner t.supply t.request = (reply a, s.share t.owner)) :
    Follows accept t s (s.alone elsewhere accept u .elapsed (reply <$> p)) := by
  rw [alone_map run, List.append_nil]
  exact (moves_refl sound t.owner).follows act

theorem follows_start (sound : Sound s) : Follows accept ⟨i, .start, u⟩ s
    (s.alone elsewhere accept u .elapsed (.started <$> startCycle i)) := by
  cases found : s.memory.instances.find? i with
  | none =>
    refine follows_missing sound (yields_startCycle_none found _) ?_
    simp only [Share.act, share_record, found]
  | some r =>
    let record := r.beginSync u.cycle (u.clock 0)
    have run : Yields (around elsewhere accept u .elapsed) (startCycle i) s.memory {} (.ok u.cycle)
        (mounted (stored s.memory record) i u.cycle) ⟨1, [(i, nextHandle s.memory u.cycle)]⟩ :=
      yields_startCycle found (Around.mk 0 [])
    rw [alone_map run]
    have named : record.id = i := Table.key_of_find? (a := r) found
    have write := moves_stored sound found record named
    have mount := moves_mounted write.sound i u.cycle
    rw [write.own] at mount
    refine (write.trans mount).follows ?_
    simp only [Share.act, share_record, found]
    rfl

theorem follows_cancel (sound : Sound s) : Follows accept ⟨i, .cancel, u⟩ s
    (s.alone elsewhere accept u .elapsed (.cancelled <$> cancelCycle i)) := by
  rw [alone_map (yields_cancelCycle s.memory _ i), List.append_nil]
  refine (moves_released sound i).follows ?_
  simp [Share.act, State.share]

theorem follows_finalize (sound : Sound s) (status : SyncStatus) :
    Follows accept ⟨i, .finalize status, u⟩ s
      (s.alone elsewhere accept u .elapsed (.finalized <$> finalizeCycle i status)) := by
  cases found : s.memory.instances.find? i with
  | none =>
    refine follows_missing sound (yields_finalizeCycle_none found status _) ?_
    simp only [Share.act, share_record, found]
  | some r =>
    let record := finished r status (u.clock 0)
    let left : Around := if r.sync = status then ⟨0, []⟩ else ⟨1, []⟩
    have run : Yields (around elsewhere accept u .elapsed) (finalizeCycle i status) s.memory {}
        (.ok ()) (released (stored s.memory record) i) left :=
      yields_finalizeCycle found status (Around.mk 0 [])
    have none : left.started = [] := by
      simp only [left]
      split <;> rfl
    rw [alone_map run, none, List.append_nil]
    have named : record.id = i := (id_finished _ _).trans (Table.key_of_find? found)
    have write := moves_stored sound found record named
    have release := moves_released write.sound i
    rw [write.own] at release
    refine (write.trans release).follows ?_
    simp only [Share.act, share_record, found]
    rfl

/-- A request that changes nothing but payloads. -/
theorem follows_payloads {t : Turn} {reply : Reply} {payloads : PayloadStore} (sound : Sound s)
    (own : (s.share t.owner).act accept t.owner t.supply t.request =
      (reply, { s.share t.owner with payloads := payloadsOf payloads.rows t.owner }))
    (others : ∀ j, j ≠ t.owner → payloadsOf payloads.rows j = payloadsOf s.memory.payloads.rows j)
    (named : ∀ p ∈ payloads.rows,
      (∃ q ∈ s.memory.payloads.rows, q.id = p.id) ∨ t.name? = some p.id) :
    Follows accept t s (reply, { s with memory := { s.memory with payloads } }) where
  sound := sound.kept rfl rfl fun _ he => he
  own := own.symm
  others j other := by
    unfold State.share
    rw [others j other]
  named := named

theorem follows_record (sound : Sound s) (payload : List UInt8)
    (fresh : ∀ p ∈ s.memory.payloads.rows, p.id ≠ u.payload) :
    Follows accept ⟨i, .record payload, u⟩ s
      (s.alone elsewhere accept u .elapsed (.recorded <$> recordNotification i payload)) := by
  cases found : s.memory.instances.find? i with
  | none =>
    refine follows_missing sound (yields_recordNotification_none found payload _) ?_
    simp only [Share.act, share_record, found]
  | some r =>
    have named : r.id = i := Table.key_of_find? found
    let p := announced r u.payload payload (u.clock 0)
    have unused : s.memory.payloads.contains p.id = false := Table.contains_eq_false fresh
    have run : Yields (around elsewhere accept u .elapsed) (recordNotification i payload) s.memory {}
        (.ok p) { s.memory with payloads := s.memory.payloads.insert p } ⟨1, []⟩ :=
      yields_recordNotification found payload (Around.mk 0 []) unused
    rw [alone_map run, List.append_nil]
    have rows : (s.memory.payloads.insert p).rows = s.memory.payloads.rows ++ [p] :=
      Table.rows_insert unused
    have share (j : InstanceId) : payloadsOf (s.memory.payloads.insert p).rows j =
        payloadsOf s.memory.payloads.rows j ++ if i = j then [p] else [] := by
      have owner : p.owner = i := named
      unfold payloadsOf
      rw [rows, List.filter_append]
      by_cases own : i = j <;> simp [owner, own]
    refine follows_payloads sound ?_ (fun j other => ?_) fun q hq => ?_
    · rw [share, if_pos rfl]
      simp only [Share.act, share_record, found]
      rfl
    · rw [share, if_neg fun same => other same.symm, List.append_nil]
    · rw [rows, List.mem_append, List.mem_singleton] at hq
      rcases hq with old | rfl
      · exact .inl ⟨q, old, rfl⟩
      · exact .inr rfl

theorem share_payloads (s : State) (i : InstanceId) :
    (s.share i).payloads = payloadsOf s.memory.payloads.rows i := rfl

theorem pending_share (s : State) (i : InstanceId) (k : Option CycleId) :
    (s.share i).pending k = s.memory.payloads.pending i k := by
  unfold Share.pending PayloadStore.pending
  rw [share_payloads, payloadsOf, List.filter_filter]
  congr 1
  funext p
  by_cases own : p.owner = i <;> simp [own]

theorem started_handled (ps rows : List SyncPayload) (w : Around) :
    (handled accept u.read ps rows w).2.2.started = w.started := by
  induction ps generalizing rows w with
  | nil => rfl
  | cons p ps ih =>
    unfold handled
    split
    · exact ih rows w
    · exact ih _ _

theorem follows_process (sound : Sound s) : Follows accept ⟨i, .process, u⟩ s
    (s.alone elsewhere accept u .elapsed (.processed <$> processPending i)) := by
  cases found : s.memory.instances.find? i with
  | none =>
    refine follows_missing sound (yields_processPending_none found _) ?_
    simp only [Share.act, share_record, found]
  | some r =>
    have accepts (p : SyncPayload) (w : Around) :
        around elsewhere accept u .elapsed (.processPayload p) w = (accept p, w) := rfl
    let ps := s.memory.payloads.pending i r.cycle
    let result := handled accept u.read ps s.memory.payloads.rows (Around.mk 0 [])
    obtain ⟨payloads, rows, run⟩ : ∃ payloads : PayloadStore, payloads.rows = result.2.1 ∧
        Yields (around elsewhere accept u .elapsed) (processPending i) s.memory {} (.ok result.1)
          { s.memory with payloads } result.2.2 :=
      yields_processPending accepts found (Around.mk 0 [])
    have none : result.2.2.started = [] := started_handled ps s.memory.payloads.rows _
    rw [alone_map run, none, List.append_nil]
    refine follows_payloads sound ?_ (fun j other => ?_) fun q hq => ?_
    · rw [rows]
      simp only [Share.act, share_record, found, pending_share, share_payloads,
        handled_payloadsOf]
      rfl
    · have strange : ∀ p ∈ ps, ∀ q ∈ s.memory.payloads.rows, q.owner = j → q.id ≠ p.id := by
        intro p hp q hq own same
        obtain ⟨hp, pending⟩ := List.mem_filter.1 hp
        simp only [Bool.and_eq_true, beq_iff_eq] at pending
        have there := Table.find?_of_mem hq
        rw [same, Table.find?_of_mem hp] at there
        cases there
        exact other (own.symm.trans pending.1.1)
      rw [rows]
      exact payloadsOf_handled strange
    · rw [rows] at hq
      obtain ⟨q', hq', id, -⟩ := of_mem_handled hq
      exact .inl ⟨q', hq', id⟩

theorem follows_purge (sound : Sound s) : Follows accept ⟨i, .purge, u⟩ s
    (s.alone elsewhere accept u .elapsed (.purged <$> purge i)) := by
  rw [alone_map (yields_purge s.memory _ i), List.append_nil]
  have rows : (s.memory.payloads.purge i).rows =
      s.memory.payloads.rows.filter fun p => p.owner != i := rfl
  refine follows_payloads sound ?_ (fun j other => ?_) fun q hq => ?_
  · unfold payloadsOf
    rw [rows, List.filter_filter]
    simp [Share.act]
  · unfold payloadsOf
    rw [rows, List.filter_filter]
    congr 1
    funext p
    by_cases own : p.owner = j <;> simp [own, other]
  · exact .inl ⟨q, (List.mem_filter.1 hq).1, rfl⟩

/-- The first task of a cycle, in the share of its tenant. -/
theorem find?_share (s : State) (i : InstanceId) (k : CycleId) :
    ((s.share i).waiting.find? fun e => decide (e.1 = k)) =
      (s.waiting.find? (isTask i k)).map fun e =>
        (e.2.cycle, s.memory.tokens.isFired e.2.token) := by
  show (tasksOf _ _ _).find? _ = _
  unfold tasksOf
  rw [List.find?_map, List.find?_filter]
  congr 2
  funext e
  simp [isTask]

theorem alone_cycleRound (s : State) (i : InstanceId) (h : CycleHandle) (reply : Reply) :
    s.alone elsewhere accept u (s.wake h) ((fun _ => reply) <$> cycleRound c i h) =
      (reply, if s.memory.tokens.isFired h.token then s
        else { s with memory := ended s.memory i h.cycle (u.clock 0) }) := by
  have enter {wake : Wake} {m : Memory} {w : Around}
      (h' : Yields (around elsewhere accept u wake) (cycleEnd i h wake) s.memory {} () m w) :
      Yields (around elsewhere accept u wake) (cycleRound c i h) s.memory {} () m w := by
    rw [cycleRound_eq]
    exact Yields.bind (yields_outside rfl) (Yields.bind (yields_outside rfl) h')
  unfold State.wake
  split
  · rw [alone_map (enter (yields_pure ())), List.append_nil]
  · have run : Yields (around elsewhere accept u .elapsed) (cycleRound c i h) s.memory {} ()
        (ended s.memory i h.cycle (u.clock 0)) ⟨1, []⟩ :=
      enter (yields_cycleEnd s.memory _ i h)
    rw [alone_map run, List.append_nil]

theorem follows_expire (sound : Sound s) (k : CycleId) :
    Follows accept ⟨i, .expire k, u⟩ s (Turn.act elsewhere accept c ⟨i, .expire k, u⟩ s) := by
  have share := find?_share s i k
  unfold Turn.act
  dsimp only
  cases found : s.waiting.find? (isTask i k) with
  | none =>
    rw [found] at share
    refine (moves_refl sound i).follows ?_
    simp only [Share.act, share, Option.map_none]
  | some e =>
    obtain ⟨i', h⟩ := e
    obtain ⟨rfl, rfl⟩ : i' = i ∧ h.cycle = k := by
      simpa [isTask] using List.find?_some found
    rw [found] at share
    let rest : State := { s with waiting := s.waiting.eraseP (isTask i' h.cycle) }
    have erase := moves_erased sound i' h.cycle
    show Follows accept _ s (rest.alone elsewhere accept u (rest.wake h)
      ((fun _ => .expired true) <$> cycleRound c i' h))
    rw [alone_cycleRound]
    split
    · next fired =>
      refine erase.follows ?_
      have fired : s.memory.tokens.isFired h.token = true := fired
      simp only [Share.act, share, Option.map_some, fired, if_true]
    · next unfired =>
      have finish := moves_ended erase.sound i' h.cycle (u.clock 0)
      rw [erase.own] at finish
      refine (erase.trans finish).follows ?_
      have unfired : s.memory.tokens.isFired h.token = false := Bool.eq_false_iff.2 unfired
      simp only [Share.act, share, Option.map_some, unfired, Bool.false_eq_true, if_false]

/-- **A request moves the share of its tenant** as the machine does, and no other. -/
theorem follows_act (sound : Sound s) (t : Turn)
    (fresh : ∀ id, t.name? = some id → ∀ p ∈ s.memory.payloads.rows, p.id ≠ id) :
    Follows accept t s (t.act elsewhere accept c s) := by
  obtain ⟨i, request, u⟩ := t
  cases request with
  | start => exact follows_start sound
  | cancel => exact follows_cancel sound
  | finalize status => exact follows_finalize sound status
  | record payload => exact follows_record sound payload (fresh _ rfl)
  | process => exact follows_process sound
  | purge =>
    show Follows accept _ s (s.alone elsewhere accept u .elapsed (.purged <$> purge i))
    exact follows_purge sound
  | expire k => exact follows_expire sound k

end

/-! ## Runs -/

/-- The requests give new names to payloads, each of them another one. -/
structure Fresh (ts : List Turn) (s : State) : Prop where
  distinct : (ts.filterMap Turn.name?).Nodup
  unused : ∀ id ∈ ts.filterMap Turn.name?, ∀ p ∈ s.memory.payloads.rows, p.id ≠ id

theorem Fresh.sublist {ts ts' : List Turn} (fresh : Fresh ts s) (h : ts'.Sublist ts) :
    Fresh ts' s where
  distinct := (h.filterMap _).nodup fresh.distinct
  unused id hid := fresh.unused id ((h.filterMap _).subset hid)

theorem Fresh.head {u : Turn} {ts : List Turn} (fresh : Fresh (u :: ts) s) :
    ∀ id, u.name? = some id → ∀ p ∈ s.memory.payloads.rows, p.id ≠ id := by
  intro id name
  refine fresh.unused id ?_
  rw [List.filterMap_cons_some name]
  exact List.mem_cons_self

variable {elsewhere : (c : Call) → c.Answer} {accept : SyncPayload → Except SyncError Unit}
  {c : HistorySyncConfig} {ts : List Turn}

theorem Follows.fresh {u : Turn} {r : Reply × State} (h : Follows accept u s r)
    (fresh : Fresh (u :: ts) s) : Fresh ts r.2 where
  distinct := (fresh.sublist (List.sublist_cons_self u ts)).distinct
  unused id hid p hp same := by
    rcases h.named p hp with ⟨q, hq, eq⟩ | named
    · exact (fresh.sublist (List.sublist_cons_self u ts)).unused id hid q hq (eq.trans same)
    · have distinct := fresh.distinct
      rw [List.filterMap_cons_some named, List.nodup_cons] at distinct
      exact distinct.1 (same ▸ hid)

/-- The requests of a tenant. -/
def turnsOf (ts : List Turn) (i : InstanceId) : List Turn :=
  ts.filter fun t => decide (t.owner = i)

/-- The results of a tenant's requests. -/
def repliesOf (l : List (InstanceId × Reply)) (i : InstanceId) : List (InstanceId × Reply) :=
  l.filter fun e => decide (e.1 = i)

theorem play_cons (u : Turn) (ts : List Turn) (s : State) :
    play elsewhere accept c (u :: ts) s =
      ((u.owner, (u.act elsewhere accept c s).1) ::
          (play elsewhere accept c ts (u.act elsewhere accept c s).2).1,
        (play elsewhere accept c ts (u.act elsewhere accept c s).2).2) := rfl

/-- A tenant's requests come to the same among others as alone, if its share is the same at first. -/
theorem play_turnsOf (soundS : Sound s) (soundT : Sound t) (same : s.share i = t.share i)
    (freshS : Fresh ts s) (freshT : Fresh (turnsOf ts i) t) :
    (play elsewhere accept c ts s).2.share i =
        (play elsewhere accept c (turnsOf ts i) t).2.share i ∧
      repliesOf (play elsewhere accept c ts s).1 i =
        (play elsewhere accept c (turnsOf ts i) t).1 := by
  induction ts generalizing s t with
  | nil => exact ⟨same, rfl⟩
  | cons u ts ih =>
    have left : Follows accept u s (u.act elsewhere accept c s) :=
      follows_act soundS u freshS.head
    by_cases own : u.owner = i
    · -- both sides make the step of the machine, from the same share
      have turns : turnsOf (u :: ts) i = u :: turnsOf ts i :=
        List.filter_cons_of_pos (decide_eq_true own)
      rw [turns] at freshT ⊢
      have right : Follows accept u t (u.act elsewhere accept c t) :=
        follows_act soundT u freshT.head
      have step := left.own
      rw [own, same, ← own, ← right.own] at step
      obtain ⟨reply, share⟩ := Prod.mk.inj step
      rw [own] at share
      obtain ⟨shares, replies⟩ := ih left.sound right.sound share (left.fresh freshS)
        (right.fresh freshT)
      rw [play_cons, play_cons]
      refine ⟨shares, ?_⟩
      rw [← replies, ← reply]
      exact List.filter_cons_of_pos (decide_eq_true own)
    · -- the left side makes a step that leaves the share alone
      have turns : turnsOf (u :: ts) i = turnsOf ts i :=
        List.filter_cons_of_neg (by simpa using own)
      rw [turns] at freshT ⊢
      have share := (left.others i fun e => own e.symm).trans same
      obtain ⟨shares, replies⟩ := ih left.sound soundT share (left.fresh freshS) freshT
      rw [play_cons]
      refine ⟨shares, ?_⟩
      rw [← replies]
      exact List.filter_cons_of_neg (by simpa using own)

/-- The coordinator before any request, on stores of any kind: no cycle runs. -/
def opening (m : Memory) : State :=
  ⟨{ m with registry := .empty, tokens := {} }, []⟩

theorem sound_opening (m : Memory) : Sound (opening m) where
  fired := List.forall_mem_nil _
  held _ _ none := by cases none
  unfired _ _ none := by cases none
  apart _ _ _ _ none := by cases none
  waiting := List.forall_mem_nil _

/-- **Tenants are independent**: whatever the requests of the others are, the share of a tenant and
the results of its requests are those of the run of its own requests alone. -/
theorem tenants_independent (elsewhere : (c : Call) → c.Answer)
    (accept : SyncPayload → Except SyncError Unit) (c : HistorySyncConfig) (m : Memory)
    (ts : List Turn) (fresh : Fresh ts (opening m)) (j : InstanceId) :
    let all := play elsewhere accept c ts (opening m)
    let own := play elsewhere accept c (turnsOf ts j) (opening m)
    all.2.share j = own.2.share j ∧ repliesOf all.1 j = own.1 :=
  play_turnsOf (sound_opening m) (sound_opening m) rfl fresh
    (fresh.sublist List.filter_sublist)

namespace Sample

/-- Two tenants, and nothing else. -/
def tenants : Memory where
  instances := (Table.empty.insert (.make ⟨"A"⟩ .active)).insert (.make ⟨"B"⟩ .active)

/-- A request with the names and the times of the number `n`. -/
def turn (n : Nat) (i : String) (request : Request) : Turn :=
  ⟨⟨i⟩, request, ⟨BitVec.ofNat 128 n⟩, ⟨BitVec.ofNat 128 n⟩, fun k => .ofMillis (1000 * n + k)⟩

/-- Both start a cycle and hear of some history. What the first one has heard is processed, and the
time of its cycle is up; the other one forgets everything and cancels its cycle. -/
def visits : List Turn :=
  [turn 1 "A" .start, turn 2 "B" .start, turn 3 "A" (.record [1]), turn 4 "B" (.record [2]),
    turn 5 "A" .process, turn 6 "B" .purge, turn 7 "B" .cancel, turn 8 "A" (.expire ⟨1⟩),
    turn 9 "B" (.expire ⟨2⟩)]

end Sample

/-- The first tenant of the sample has what it has alone: its cycle is completed, and what it has
heard of is processed. -/
theorem tenants_independent_sample :
    let accept := fun _ => .ok ()
    let all := play Call.unanswered accept {} Sample.visits (opening Sample.tenants)
    let own := play Call.unanswered accept {} (turnsOf Sample.visits ⟨"A"⟩) (opening Sample.tenants)
    (all.2.share ⟨"A"⟩ = own.2.share ⟨"A"⟩ ∧ repliesOf all.1 ⟨"A"⟩ = own.1) ∧
      (all.2.share ⟨"A"⟩).record.map Instance.sync = some .completed ∧
      (all.2.share ⟨"A"⟩).payloads.map SyncPayload.status = [.done] ∧
      (all.2.share ⟨"B"⟩).record.map Instance.sync = some .running ∧
      (all.2.share ⟨"B"⟩).payloads = [] := by
  intro accept all own
  have fresh : Fresh Sample.visits (opening Sample.tenants) := by
    constructor
    · decide
    · exact fun _ _ p none => by cases none
  refine ⟨tenants_independent Call.unanswered accept {} Sample.tenants Sample.visits fresh ⟨"A"⟩, ?_⟩
  decide +kernel

end HistorySync

end MessageGateway
