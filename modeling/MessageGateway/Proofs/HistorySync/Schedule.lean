import MessageGateway.Proofs.HistorySync.Turns

/-!
# Schedules of the coordinator

Cycles are started, cancelled and ended at any times and on any instances, each call alone. What is
then stored of an instance, and whether a cycle runs on it, is told by a reference with one timer for
each instance: a start arms it, a cancellation and an end disarm it, and when it goes off the cycle is
completed.

## Main definitions

* `HistorySync.Event`: time passes, or the coordinator is called
* `HistorySync.Reference.tell`: what is told after an event
* `HistorySync.Event.happen`: the world after an event
* `HistorySync.Quiet`: a world before any cycle is started

## Main results

* `HistorySync.Stands.happen`: the world and the reference stay together at each event
* `HistorySync.timers_tell`: they stay together over all schedules
-/

namespace MessageGateway

open Program Simulation

namespace HistorySync

/-! ## Events -/

/-- Something that happens in a schedule: time passes, or the coordinator is called. -/
inductive Event where
  /-- So many milliseconds pass. -/
  | wait (ms : Nat)
  /-- A cycle is started. -/
  | start (i : InstanceId)
  /-- The cycle is cancelled. -/
  | cancel (i : InstanceId)
  /-- A caller ends the cycle. -/
  | finalize (i : InstanceId) (status : SyncStatus)

/-- The instance that an event is about. -/
def Event.instance? : Event → Option InstanceId
  | .wait _ => none
  | .start i | .cancel i | .finalize i _ => some i

/-- What is told after an event. The calendar shows `stamp n` at the time `n`, and a timer goes off
`delay` after it was armed. -/
def Reference.tell (stamp : Nat → Timestamp) (delay : Nat) (r : Reference) : Event → Reference
  | .wait ms => r.asOf stamp (r.time + ms)
  | .start i =>
    { r with names := r.names.draw.2 }.set i
      ((r.cells i).start r.names.draw.1 (stamp r.time) (r.time + delay))
  | .cancel i => r.set i (r.cells i).cancel
  | .finalize i status => r.set i ((r.cells i).finalize status (stamp r.time))

/-- The world after a program was run alone and the tasks have settled. -/
def afterwards {α : Type} (turns : Nat) (p : Program α) (w : World) : World :=
  (World.drive turns (.ready p) w).2.settleWithin turns

/-- The world after an event. -/
def Event.happen (turns : Nat) (w : World) : Event → World
  | .wait ms => afterwards turns (sleepUntil (w.clock + ms)) w
  | .start i => afterwards turns (startCycle i) w
  | .cancel i => afterwards turns (cancelCycle i) w
  | .finalize i status => afterwards turns (finalizeCycle i status) w

/-! ## What is told of an event -/

variable {c : GatewayConfig} {w w' : World} {ts : List Timer} {base : Int} {g : Setup} {r : Reference}

/-- **A wait**. -/
theorem Stands.wait {turns : Nat} (h : Stands c base g w ts r) (ms : Nat)
    (enough : 2 * load ts + 3 ≤ turns) :
    Rests c base g (load ts) (afterwards turns (sleepUntil (w.clock + ms)) w)
      (r.tell (calendar base) g.delay (.wait ms)) := by
  obtain ⟨turns, rfl⟩ := Nat.exists_eq_add_of_le' (Nat.le_trans (Nat.le_add_left 1 _) enough)
  have waited : ∃ w' ts' r', World.drive (turns + 1) (.ready (sleepUntil (w.clock + ms))) w =
      (some (), w') ∧ Stands c base g w' ts' r' ∧ w'.clock = w.clock + ms ∧ load ts' ≤ load ts ∧
      r'.asOf (calendar base) (w.clock + ms) = r.asOf (calendar base) (w.clock + ms) := by
    rw [World.drive_sleepUntil h.running]
    split
    · exact ⟨w, ts, r, rfl, h, by omega, Nat.le_refl _, rfl⟩
    · exact h.waits (Nat.le_add_right w.clock ms) (.inl (by omega))
  obtain ⟨w', ts', r', drive, h', clock, less, same⟩ := waited
  have told : r'.asOf (calendar base) r'.time = r.tell (calendar base) g.delay (.wait ms) := by
    rw [← h'.time, clock, same, h.time]
    rfl
  unfold afterwards
  rw [drive, ← told]
  exact (h'.settled (by omega)).mono less

/-- A call of the coordinator, of which the reference tells at once. -/
theorem Stands.call {α : Type} {turns : Nat} {p : Program α} {a : α} (h : Stands c base g w' ts r)
    (ahead : r.Ahead) (running : w.running = none) (goes : World.advance p w = (.inl a, w'))
    (enough : load ts + 1 ≤ turns) : Rests c base g (load ts) (afterwards turns p w) r := by
  obtain ⟨turns, rfl⟩ := Nat.exists_eq_add_of_le' (Nat.le_trans (Nat.le_add_left 1 _) enough)
  have settled : Rests c base g (load ts) (w'.settleWithin (turns + 1))
      (r.asOf (calendar base) r.time) := h.settled (by omega)
  rw [ahead.asOf] at settled
  unfold afterwards
  rwa [World.drive_ready running goes]

/-- **A start** arms a timer. -/
theorem Stands.start {turns : Nat} {i : InstanceId} (h : Stands c base g w ts r)
    (calm : Calm w ts) (known : g.known i) (enough : load ts + 3 ≤ turns) :
    Rests c base g (load ts + 2) (afterwards turns (startCycle i) w)
      (r.tell (calendar base) g.delay (.start i)) := by
  obtain ⟨r₀, found, -⟩ := (h.timed.kept i).record known
  let k := w.cycleNames.draw.1
  let m := mounted (stored w.memory (r₀.beginSync k w.now)) i k
  let task : Timer := ⟨w.spawned, i, nextHandle w.memory k, none⟩
  let cell := (r.cells i).start k w.now (w.clock + g.delay)
  let next := ({ r with names := w.cycleNames.draw.2 } : Reference).set i cell
  let begun : World := { w with
    cycleNames := w.cycleNames.draw.2
    spawned := w.spawned + 1
    threads := w.threads ++ [⟨w.spawned, .ready (w.task (.cycle i (nextHandle w.memory k)))⟩] }
  have only : (startCycle i).Only fun c => c.isPrompt = true :=
    startCycle_only i rfl rfl rfl (fun _ => rfl) rfl (fun _ => rfl) (fun _ => rfl) fun _ => rfl
  have run : Yields World.beyond (startCycle i) w.memory w (.ok k) m begun :=
    yields_startCycle found w
  obtain ⟨log, goes⟩ := World.advance_of_yields only h.faults run
  have told : r.tell (calendar base) g.delay (.start i) = next := by
    simp only [Reference.tell, next, cell, k, h.names, h.now, h.time]
  have ahead : next.Ahead := by
    refine Reference.Ahead.set (h.ahead calm) fun d armed => ?_
    obtain rfl : w.clock + g.delay = d := Option.some.inj armed
    have := h.positive
    have := h.time
    omega
  have thread : task.thread c =
      ⟨w.spawned, .ready (w.task (.cycle i (nextHandle w.memory k)))⟩ := by
    rw [task_eq w task, h.config]
    rfl
  have threads : begun.threads = (ts ++ [task]).map (Timer.thread c) := by
    rw [List.map_append, List.map_singleton, thread, ← h.threads]
  have stands : Stands c base g { begun with memory := m, log } (ts ++ [task]) next :=
    ⟨h.config, h.base, h.running, h.faults, threads, h.time, rfl,
      h.timed.started known found w.now w.spawned, h.delay, h.positive⟩
  have weight : load (ts ++ [task]) = load ts + 2 := load_append ts [task]
  rw [told, ← weight]
  exact stands.call ahead h.running goes (by omega)

/-- **A timer is disarmed**, by a call that may overwrite the record. -/
theorem Stands.disarm {α : Type} {turns : Nat} {i : InstanceId} {p : Program α} {a : α} {m : Memory}
    {cell : Cell} (h : Stands c base g w ts r) (calm : Calm w ts)
    (only : p.Only fun c => c.isPrompt = true)
    (run : Yields World.beyond p w.memory w a (released m i) w)
    (registry : m.registry = w.memory.registry) (tokens : m.tokens = w.memory.tokens)
    (others : ∀ j, j ≠ i → m.instances.find? j = w.memory.instances.find? j)
    (record : g.known i → ∃ r, m.instances.find? i = some r ∧ cell.Shows r)
    (disarmed : cell.armed = none) (enough : load ts + 1 ≤ turns) :
    Rests c base g (load ts) (afterwards turns p w) (r.set i cell) := by
  obtain ⟨log, goes⟩ := World.advance_of_yields only h.faults run
  have stands : Stands c base g { w with memory := released m i, log } ts (r.set i cell) :=
    ⟨h.config, h.base, h.running, h.faults, h.threads, h.time, h.names,
      h.timed.released registry tokens others record disarmed (fun _ ht => ht) fun _ ht _ => ht,
      h.delay, h.positive⟩
  have ahead : (r.set i cell).Ahead := by
    refine (h.ahead calm).set fun d armed => ?_
    rw [disarmed] at armed
    cases armed
  exact stands.call ahead h.running goes enough

/-- **A cancellation** disarms the timer. -/
theorem Stands.cancel {turns : Nat} (h : Stands c base g w ts r) (calm : Calm w ts)
    (i : InstanceId) (enough : load ts + 1 ≤ turns) :
    Rests c base g (load ts) (afterwards turns (cancelCycle i) w)
      (r.tell (calendar base) g.delay (.cancel i)) := by
  refine h.disarm calm (cancelCycle_only i rfl fun _ => rfl) (yields_cancelCycle w.memory w i)
    rfl rfl (fun _ _ => rfl) (fun known => ?_) rfl enough
  obtain ⟨r₀, found, shows⟩ := (h.timed.kept i).record known
  exact ⟨r₀, found, shows.cycle, shows.sync, shows.updated⟩

/-- **The end of a cycle by a caller** writes the status if it is another one, and disarms the
timer. -/
theorem Stands.finalize {turns : Nat} {i : InstanceId} (h : Stands c base g w ts r)
    (calm : Calm w ts) (known : g.known i) (status : SyncStatus) (enough : load ts + 1 ≤ turns) :
    Rests c base g (load ts) (afterwards turns (finalizeCycle i status) w)
      (r.tell (calendar base) g.delay (.finalize i status)) := by
  obtain ⟨r₀, found, shows⟩ := (h.timed.kept i).record known
  let record := finished r₀ status w.now
  have named : record.id = i := (id_finished _ _).trans (Table.key_of_find? found)
  have find := find?_stored found named
  have run : Yields World.beyond (finalizeCycle i status) w.memory w (.ok ())
      (released (stored w.memory record) i) w := by
    have run : Yields World.beyond (finalizeCycle i status) w.memory w (.ok ())
        (released (stored w.memory record) i) (if r₀.sync = status then w else w) :=
      yields_finalizeCycle found status w
    rwa [ite_self] at run
  have told : r.tell (calendar base) g.delay (.finalize i status) =
      r.set i ((r.cells i).finalize status w.now) := by
    rw [h.now]
    rfl
  rw [told]
  exact h.disarm calm (finalizeCycle_only i status rfl rfl (fun _ => rfl) rfl fun _ => rfl) run
    rfl rfl (fun j other => (find j).trans (if_neg other))
    (fun _ => ⟨record, (find i).trans (if_pos rfl), shows.finalize status w.now⟩)
    (Cell.armed_finalize status w.now) enough

/-! ## Schedules -/

/-- **The world and the reference stay together** from event to event. -/
theorem Stands.happen {turns : Nat} (h : Stands c base g w ts r) (calm : Calm w ts) (e : Event)
    (known : ∀ i, e.instance? = some i → g.known i) (enough : 2 * load ts + 3 ≤ turns) :
    Rests c base g (load ts + 2) (e.happen turns w) (r.tell (calendar base) g.delay e) := by
  cases e with
  | wait ms => exact (h.wait ms enough).mono (by omega)
  | start i => exact h.start calm (known i rfl) (by omega)
  | cancel i => exact (h.cancel calm i (by omega)).mono (by omega)
  | finalize i status => exact (h.finalize calm (known i rfl) status (by omega)).mono (by omega)

/-- The world after the events of a schedule. -/
def afterAll (turns : Nat) (es : List Event) (w : World) : World :=
  es.foldl (Event.happen turns) w

/-- What is told after the events of a schedule. -/
def Reference.tellAll (stamp : Nat → Timestamp) (delay : Nat) (es : List Event) (r : Reference) :
    Reference :=
  es.foldl (Reference.tell stamp delay) r

theorem Rests.afterAll {turns n : Nat} {es : List Event} (h : Rests c base g n w r)
    (known : ∀ e ∈ es, ∀ i, e.instance? = some i → g.known i)
    (enough : 2 * (n + 2 * es.length) + 3 ≤ turns) :
    Rests c base g (n + 2 * es.length) (HistorySync.afterAll turns es w)
      (r.tellAll (calendar base) g.delay es) := by
  -- each event leaves the tasks at most two more turns before them
  induction es generalizing w r n with
  | nil => exact h
  | cons e es ih =>
    obtain ⟨here, later⟩ := List.forall_mem_cons.1 known
    rw [List.length_cons] at enough
    obtain ⟨ts, stands, calm, less⟩ := h
    have next : Rests c base g (n + 2) (e.happen turns w) (r.tell (calendar base) g.delay e) :=
      (stands.happen calm e here (by omega)).mono (by omega)
    refine (ih next later (by omega)).mono ?_
    rw [List.length_cons]
    omega

/-- Nothing runs in the world, no cycle has a handle, and no token was fired before it was issued. -/
structure Quiet (w : World) : Prop where
  running : w.running = none
  threads : w.threads = []
  faults : w.faults = []
  handles : ∀ i, w.memory.registry.acquire i = none
  fired : ∀ t ∈ w.memory.tokens.fired, t.number < w.memory.tokens.issued

/-- What is told of a world before any cycle is started. -/
def Reference.of (w : World) : Reference where
  time := w.clock
  names := w.cycleNames
  cells i :=
    match w.memory.instances.find? i with
    | some r => ⟨r.cycle, r.sync, r.syncUpdated, none⟩
    | none => ⟨none, .idle, none, none⟩

theorem Quiet.rests (quiet : Quiet w) (positive : 0 < w.config.historySync.completionDelay) :
    Rests w.config w.start
      ⟨fun i => (w.memory.instances.find? i).isSome = true, w.config.historySync.completionDelay⟩ 0
      w (.of w) := by
  have timed : Timed ⟨fun i => (w.memory.instances.find? i).isSome = true,
      w.config.historySync.completionDelay⟩ w.clock w.memory [] (Reference.of w).cells := by
    have none {i : InstanceId} {h : CycleHandle} {p : Prop}
        (held : w.memory.registry.acquire i = some h) : p := by
      rw [quiet.handles] at held
      cases held
    refine ⟨⟨⟨quiet.fired, fun _ _ held => none held⟩, fun _ _ held => none held,
      fun _ _ _ _ held => none held, List.forall_mem_nil _⟩, fun i => ?_⟩
    refine ⟨fun known => ?_, fun _ => ?_, fun _ held => none held, fun _ held => none held,
      List.forall_mem_nil _⟩
    · obtain ⟨r, found⟩ := Option.isSome_iff_exists.1 known
      refine ⟨r, found, ?_⟩
      simp only [Reference.of, found]
      exact ⟨rfl, rfl, rfl⟩
    · simp only [Reference.of]
      split <;> rfl
  exact ⟨[], ⟨rfl, rfl, quiet.running, quiet.faults, quiet.threads, rfl, rfl, timed, rfl, positive⟩,
    List.forall_mem_nil _, Nat.le_refl _⟩

/-- A cycle runs on an instance exactly while its timer is armed. -/
theorem Rests.isRunning {n turns : Nat} (h : Rests c base g n w r) (i : InstanceId) :
    (World.drive (turns + 1) (.ready (isRunning i)) w).1 = some (r.cells i).armed.isSome := by
  obtain ⟨ts, h, -, -⟩ := h
  have only : (MessageGateway.isRunning i).Only fun c => c.isPrompt = true :=
    isRunning_only i rfl fun _ => rfl
  obtain ⟨log, goes⟩ := World.advance_of_yields only h.faults (yields_isRunning w.memory w i)
  rw [World.drive_ready h.running goes]
  have kept := h.timed.kept i
  cases held : w.memory.registry.acquire i with
  | none =>
    rw [kept.disarmed held]
    rfl
  | some handle =>
    have unfired : w.memory.tokens.isFired handle.token = false :=
      h.timed.sound.unfired i handle held
    obtain ⟨t, ht, own, rfl⟩ := kept.task handle held
    rw [(kept.live t ht own unfired).1]
    simp [Option.filter, unfired]

/-- **Timers tell of all cycles**: after any schedule, the stored cycle, the status and its time are
those of the reference, and a cycle runs exactly while a timer is armed. -/
theorem timers_tell {turns : Nat} (es : List Event) (w : World) (quiet : Quiet w)
    (positive : 0 < w.config.historySync.completionDelay)
    (known : ∀ e ∈ es, ∀ i, e.instance? = some i → (w.memory.instances.find? i).isSome = true)
    (enough : 4 * es.length + 3 ≤ turns) :
    let v := afterAll turns es w
    let r := (Reference.of w).tellAll (calendar w.start) w.config.historySync.completionDelay es
    v.clock = r.time ∧
      (∀ i, (w.memory.instances.find? i).isSome = true →
        ∃ record, v.memory.instances.find? i = some record ∧ (r.cells i).Shows record) ∧
      ∀ i, (World.drive turns (.ready (isRunning i)) v).1 = some (r.cells i).armed.isSome := by
  intro v r
  have fuel : 2 * (0 + 2 * es.length) + 3 ≤ turns := by omega
  have rests := (quiet.rests positive).afterAll known fuel
  obtain ⟨turns, rfl⟩ := Nat.exists_eq_add_of_le' (Nat.le_trans (Nat.le_add_left 1 _) enough)
  have running (i : InstanceId) : (World.drive (turns + 1) (.ready (isRunning i)) v).1 =
      some (r.cells i).armed.isSome := rests.isRunning i
  obtain ⟨ts, h, -, -⟩ := rests
  refine ⟨h.time, ?_, running⟩
  intro i there
  exact (h.timed.kept i).record there

namespace Sample

/-- Two instances, on which cycles take ten milliseconds. -/
def clockwork : World where
  config := { historySync := { completionDelay := 10 } }
  memory := { instances := (Table.empty.insert (.make ⟨"A"⟩ .active)).insert (.make ⟨"B"⟩ .active) }

/-- A cycle is started again, another one is cancelled and then ended by a caller, and the time of the
first one is up. -/
def schedule : List Event :=
  [.start ⟨"A"⟩, .wait 3, .start ⟨"B"⟩, .wait 2, .start ⟨"A"⟩, .wait 1, .cancel ⟨"B"⟩, .wait 5,
    .finalize ⟨"B"⟩ .idle, .wait 7]

end Sample

/-- The second cycle of an instance is completed at its time; the cycle of the other one, which was
cancelled, is ended by the caller. -/
theorem timers_tell_sample :
    let v := afterAll 43 Sample.schedule Sample.clockwork
    v.clock = 18 ∧ (∃ a, v.memory.instances.find? ⟨"A"⟩ = some a ∧ a.cycle = some ⟨3⟩ ∧
        a.sync = .completed ∧ a.syncUpdated = some (.ofMillis 15)) ∧
      (∃ b, v.memory.instances.find? ⟨"B"⟩ = some b ∧ b.cycle = some ⟨2⟩ ∧ b.sync = .idle ∧
        b.syncUpdated = some (.ofMillis 11)) ∧
      (World.drive 43 (.ready (isRunning ⟨"A"⟩)) v).1 = some false := by
  have quiet : Quiet Sample.clockwork := ⟨rfl, rfl, rfl, fun _ => rfl, List.forall_mem_nil _⟩
  have known : ∀ e ∈ Sample.schedule, ∀ i, e.instance? = some i →
      (Sample.clockwork.memory.instances.find? i).isSome = true := by
    decide
  have enough : 4 * Sample.schedule.length + 3 ≤ 43 := by decide
  obtain ⟨time, records, runs⟩ :=
    timers_tell Sample.schedule Sample.clockwork quiet (by decide) known enough
  obtain ⟨a, foundA, showsA⟩ := records ⟨"A"⟩ (by decide)
  obtain ⟨b, foundB, showsB⟩ := records ⟨"B"⟩ (by decide)
  refine ⟨time, ⟨a, foundA, showsA.cycle, showsA.sync, showsA.updated⟩,
    ⟨b, foundB, showsB.cycle, showsB.sync, showsB.updated⟩, runs ⟨"A"⟩⟩

end HistorySync

end MessageGateway
