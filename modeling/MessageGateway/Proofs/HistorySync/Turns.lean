import MessageGateway.Proofs.HistorySync.Timers
import MessageGateway.Proofs.Simulation.Prompt
import Mathlib.Data.List.Basic

/-!
# Turns of the tasks of cycles

In a world in which nothing else runs, the tasks of cycles take their turns one after another. A task
that was stopped ends, one that has just begun goes to sleep, and one whose time is up completes its
cycle. A reference tells of the world as of a time: once all tasks are asleep, no timer that was due
is left.

## Main definitions

* `HistorySync.Reference`: what is told of all instances at a time
* `HistorySync.Timer.thread`: the task of a timer as a thread of a world
* `HistorySync.Stands`: a world in which nothing runs but tasks of cycles, and what is told of it
* `HistorySync.Calm`: all tasks are asleep, and none is due

## Main results

* `HistorySync.Stands.turn`: one task has its turn, or all are asleep
* `HistorySync.Stands.settled`: after enough turns all tasks are asleep, and the timers that were due
  have gone off
* `HistorySync.Stands.waits`: the same while time passes
-/

namespace MessageGateway

open Program Simulation

namespace HistorySync

/-! ## The reference -/

/-- What is told of all instances at a time. -/
structure Reference where
  /-- The time. -/
  time : Nat
  /-- Where the names for cycles come from. -/
  names : NameSource .cycle
  /-- What is told of each instance. -/
  cells : InstanceId → Cell

/-- The cell once the time is `time`: its timer has gone off if it was due. -/
def Cell.asOf (stamp : Nat → Timestamp) (time : Nat) (cell : Cell) : Cell :=
  match cell.armed with
  | some d => if d ≤ time then cell.expire (stamp d) else cell
  | none => cell

namespace Reference

variable {stamp : Nat → Timestamp} {time : Nat} {r : Reference} {i : InstanceId}

/-- The reference with another cell for an instance. -/
def set (r : Reference) (i : InstanceId) (cell : Cell) : Reference :=
  { r with cells := setCell r.cells i cell }

/-- The reference once the time is `time`. -/
def asOf (stamp : Nat → Timestamp) (time : Nat) (r : Reference) : Reference :=
  { r with time, cells := fun i => (r.cells i).asOf stamp time }

/-- All timers that are armed go off later. -/
def Ahead (r : Reference) : Prop :=
  ∀ i d, (r.cells i).armed = some d → r.time < d

theorem Ahead.asOf (ahead : r.Ahead) (stamp : Nat → Timestamp) : r.asOf stamp r.time = r := by
  have same : (fun i => (r.cells i).asOf stamp r.time) = r.cells := by
    funext i
    unfold Cell.asOf
    split
    · next d armed => exact if_neg (Nat.not_le_of_lt (ahead i d armed))
    · rfl
  rw [Reference.asOf, same]

theorem Ahead.set (ahead : r.Ahead) {cell : Cell} (later : ∀ d, cell.armed = some d → r.time < d) :
    (r.set i cell).Ahead := by
  intro j d armed
  unfold Reference.set setCell at armed
  dsimp only at armed
  split at armed
  · exact later d armed
  · exact ahead j d armed

/-- A timer that has gone off at its time makes no difference for later. -/
theorem asOf_expire (armed : (r.cells i).armed = some r.time) (le : r.time ≤ time) :
    (r.set i ((r.cells i).expire (stamp r.time))).asOf stamp time = r.asOf stamp time := by
  unfold Reference.asOf Reference.set setCell
  congr 1
  funext j
  dsimp only
  split
  · next own =>
    subst own
    simp [Cell.asOf, armed, le, Cell.expire]
  · rfl

end Reference

/-! ## Tasks in a world -/

variable {c : GatewayConfig} {w w' : World} {t : Timer} {ts : List Timer}

/-- What a task does when its pause is over. -/
def Timer.wakeUp (t : Timer) (wake : Wake) : Program Finish := do
  cycleEnd t.owner t.handle wake
  return .over

/-- What a task does from its start. -/
def Timer.program (c : GatewayConfig) (t : Timer) : Program Finish := do
  let time ← elapsed
  let wake ← pause (some (time + c.historySync.completionDelay)) [t.handle.token] false
  t.wakeUp wake

/-- The task in a world. -/
def Timer.thread (c : GatewayConfig) (t : Timer) : Thread where
  id := t.id
  rest := match t.due with
    | none => .ready (t.program c)
    | some d => .paused (some d) [t.handle.token] false t.wakeUp

theorem task_eq (w : World) (t : Timer) :
    w.task (.cycle t.owner t.handle) = t.program w.config := by
  simp only [World.task, Activity.round, cycleRound_eq, Timer.program, Timer.wakeUp, bind_assoc,
    pure_bind]

theorem wake?_eq (w : World) (d : Nat) (k : Token) : w.wake? (some d) [k] false =
    if w.memory.tokens.isFired k then some .stopped
    else if d ≤ w.clock then some .elapsed else none := by
  simp [World.wake?, TokenBox.anyFired]

/-- A task starts: it goes to sleep, unless its pause is over at once. -/
theorem advance_program (w : World) (t : Timer) : World.advance (t.program w.config) w =
    match w.wake? (some (w.clock + w.config.historySync.completionDelay)) [t.handle.token] false with
    | some wake => World.advance (t.wakeUp wake) w
    | none => (.inr (.paused (some (w.clock + w.config.historySync.completionDelay))
        [t.handle.token] false t.wakeUp), w) :=
  World.advance_pause w _ _ _ t.wakeUp

theorem advance_stopped (w : World) (t : Timer) :
    World.advance (t.wakeUp .stopped) w = (.inl .over, w) := rfl

/-- A task whose time is up. -/
theorem advance_elapsed (faults : w.faults = []) (t : Timer) : ∃ log,
    World.advance (t.wakeUp .elapsed) w =
      (.inl .over, { w with memory := ended w.memory t.owner t.handle.cycle w.now, log }) := by
  have only : (t.wakeUp .elapsed).Only fun c => c.isPrompt = true :=
    Only.bind (cycleEnd_only _ _ _ rfl (fun _ => rfl) rfl fun _ => rfl) fun _ => only_pure _
  have run : Yields World.beyond (t.wakeUp .elapsed) w.memory w .over
      (ended w.memory t.owner t.handle.cycle w.now) w :=
    (yields_cycleEnd w.memory w t.owner t.handle).bind (yields_pure _)
  exact World.advance_of_yields only faults run

/-! ## Turns -/

/-- How many turns a task may take: it goes to sleep, and it ends. -/
def Timer.turns (t : Timer) : Nat :=
  match t.due with
  | none => 2
  | some _ => 1

/-- How many turns the tasks may take. -/
def load : List Timer → Nat
  | [] => 0
  | t :: ts => t.turns + load ts

theorem Timer.turns_pos (t : Timer) : 0 < t.turns := by
  unfold turns
  split <;> omega

theorem load_append (ts ts' : List Timer) : load (ts ++ ts') = load ts + load ts' := by
  induction ts with
  | nil => simp [load]
  | cons t ts ih =>
    simp only [List.cons_append, load, ih]
    omega

theorem load_middle (pre post : List Timer) (t : Timer) :
    load (pre ++ t :: post) = load (pre ++ post) + t.turns := by
  simp only [load_append, load]
  omega

theorem eq_nil_of_load (none : load ts = 0) : ts = [] := by
  cases ts with
  | nil => rfl
  | cons t ts =>
    have positive := t.turns_pos
    simp only [load] at none
    omega

/-- A world in which nothing runs but the tasks `ts`, and of which `r` is told. -/
structure Stands (c : GatewayConfig) (base : Int) (g : Setup) (w : World) (ts : List Timer)
    (r : Reference) : Prop where
  config : w.config = c
  base : w.start = base
  running : w.running = none
  faults : w.faults = []
  threads : w.threads = ts.map (Timer.thread c)
  time : w.clock = r.time
  names : w.cycleNames = r.names
  timed : Timed g w.clock w.memory ts r.cells
  delay : g.delay = c.historySync.completionDelay
  positive : 0 < g.delay

/-- The calendar of a simulation that begins at `base`. -/
def calendar (base : Int) (n : Nat) : Timestamp :=
  .ofMillis (base + n)

/-- All tasks are asleep, and none is due. -/
def Calm (w : World) (ts : List Timer) : Prop :=
  ∀ t ∈ ts, t.Live w.memory ∧ ∃ d, t.due = some d ∧ w.clock < d

/-- What is told is the same for all times that come. -/
structure Onward (base : Int) (r r' : Reference) : Prop where
  time : r'.time = r.time
  asOf : ∀ time, r.time ≤ time → r'.asOf (calendar base) time = r.asOf (calendar base) time

variable {base : Int} {g : Setup} {r r' : Reference}

theorem Onward.refl (base : Int) (r : Reference) : Onward base r r :=
  ⟨rfl, fun _ _ => rfl⟩

theorem Onward.trans {r'' : Reference} (h : Onward base r r') (h' : Onward base r' r'') :
    Onward base r r'' where
  time := h'.time.trans h.time
  asOf time le := (h'.asOf time (h.time ▸ le)).trans (h.asOf time le)

/-- Who goes on first, when all threads are tasks of cycles. -/
theorem Stands.ready (h : Stands c base g w ts r) : (w.turn? = none ∧
      ∀ t ∈ ts, (t.thread c).rest.resume? w = none) ∨
    ∃ pre t post p, ts = pre ++ t :: post ∧ (t.thread c).rest.resume? w = some p ∧
      w.turn? = some (World.runTask { w with threads := (pre ++ post).map (Timer.thread c) }
        t.id p) := by
  unfold World.turn?
  rw [h.running, h.threads]
  dsimp only
  rcases World.firstReady?_cases w (ts.map (Timer.thread c)) with ⟨no, asleep⟩ | ⟨pre, x, post, p,
    split, goes, yes⟩
  · rw [no]
    exact .inl ⟨rfl, fun t ht => asleep _ (List.mem_map_of_mem ht)⟩
  · obtain ⟨pre, rest, rfl, rfl, tail⟩ := List.map_eq_append_iff.1 split
    obtain ⟨t, post, rfl, rfl, rfl⟩ := List.map_eq_cons_iff.1 tail
    rw [yes, ← List.map_append]
    exact .inr ⟨pre, t, post, p, rfl, goes, rfl⟩

theorem resume?_fresh (w : World) (fresh : t.due = none) :
    (t.thread c).rest.resume? w = some (t.program c) := by
  simp only [Timer.thread, fresh, Blocked.resume?]

theorem resume?_stopped {d : Nat} (stopped : ¬t.Live w.memory) (due : t.due = some d) :
    (t.thread c).rest.resume? w = some (t.wakeUp .stopped) := by
  have fired : w.memory.tokens.isFired t.handle.token = true := by
    simpa [Timer.Live] using stopped
  simp only [Timer.thread, due, Blocked.resume?, wake?_eq, if_pos fired, Option.map_some]

theorem resume?_asleep {d : Nat} (live : t.Live w.memory) (due : t.due = some d) :
    (t.thread c).rest.resume? w = if d ≤ w.clock then some (t.wakeUp .elapsed) else none := by
  have unfired : ¬w.memory.tokens.isFired t.handle.token = true := Bool.eq_false_iff.1 live
  simp only [Timer.thread, due, Blocked.resume?, wake?_eq, if_neg unfired]
  split <;> rfl

/-- Tasks that cannot go on are asleep. -/
theorem calm_of_blocked (blocked : ∀ t ∈ ts, (t.thread c).rest.resume? w = none) : Calm w ts := by
  intro t ht
  have waits := blocked t ht
  cases due : t.due with
  | none =>
    rw [resume?_fresh w due] at waits
    cases waits
  | some d =>
    by_cases live : t.Live w.memory
    · rw [resume?_asleep live due] at waits
      have early : ¬d ≤ w.clock := fun passed => by
        rw [if_pos passed] at waits
        cases waits
      exact ⟨live, d, rfl, Nat.lt_of_not_le early⟩
    · rw [resume?_stopped live due] at waits
      cases waits

/-- A task that was stopped ends when it goes on. -/
theorem runTask_stopped {p : Program Finish} (stopped : ¬t.Live w.memory)
    (goes : (t.thread w.config).rest.resume? w = some p) : w.runTask t.id p = w := by
  have fired : w.memory.tokens.isFired t.handle.token = true := by
    simpa [Timer.Live] using stopped
  refine World.runTask_over t.id ?_
  cases due : t.due with
  | none =>
    rw [resume?_fresh w due, Option.some.injEq] at goes
    rw [← goes, advance_program, wake?_eq, if_pos fired]
    exact advance_stopped w t
  | some d =>
    rw [resume?_stopped stopped due, Option.some.injEq] at goes
    rw [← goes]
    exact advance_stopped w t

/-- A task that was not stopped falls asleep. -/
theorem runTask_fresh (live : t.Live w.memory) (positive : 0 < w.config.historySync.completionDelay) :
    w.runTask t.id (t.program w.config) =
      { w with threads := w.threads ++ [Timer.thread w.config
        { t with due := some (w.clock + w.config.historySync.completionDelay) }] } := by
  have unfired : ¬w.memory.tokens.isFired t.handle.token = true := Bool.eq_false_iff.1 live
  have early : ¬w.clock + w.config.historySync.completionDelay ≤ w.clock := by omega
  have asleep := advance_program w t
  rw [wake?_eq, if_neg unfired, if_neg early] at asleep
  simp only [World.runTask, asleep]
  rfl

/-- What changes in a turn: the tasks, the memory, and what is told of it. -/
theorem Stands.changed {m : Memory} {ts' : List Timer} {cells : InstanceId → Cell}
    (h : Stands c base g w ts r) (timed : Timed g w.clock m ts' cells) (log : List Simulation.Entry) :
    Stands c base g { w with threads := ts'.map (Timer.thread c), memory := m, log } ts'
      { r with cells } :=
  ⟨h.config, h.base, h.running, h.faults, rfl, h.time, h.names, timed, h.delay, h.positive⟩

theorem Stands.now (h : Stands c base g w ts r) : w.now = calendar base r.time := by
  unfold World.now calendar
  rw [h.base, h.time]

/-- **The turn of a task**, whichever it is. -/
theorem Stands.goesOn {pre post : List Timer} {p : Program Finish}
    (h : Stands c base g w (pre ++ t :: post) r) (goes : (t.thread c).rest.resume? w = some p) :
    ∃ ts' r', Stands c base g
        (World.runTask { w with threads := (pre ++ post).map (Timer.thread c) } t.id p) ts' r' ∧
      load ts' < load (pre ++ t :: post) ∧ Onward base r r' := by
  obtain rfl : w.config = c := h.config
  let rest : World := { w with threads := (pre ++ post).map (Timer.thread w.config) }
  have less : load (pre ++ post) < load (pre ++ t :: post) := by
    have positive := t.turns_pos
    rw [load_middle]
    omega
  by_cases live : t.Live w.memory
  · cases due : t.due with
    | none =>
      rw [resume?_fresh w due, Option.some.injEq] at goes
      subst goes
      have sleeps := runTask_fresh (w := rest) (t := t) live (h.delay ▸ h.positive)
      rw [← h.delay] at sleeps
      have stands := h.changed (h.timed.asleep due) w.log
      rw [List.map_append] at stands
      rw [sleeps]
      refine ⟨_, r, stands, ?_, .refl base r⟩
      simp only [load_append, load, Timer.turns, due]
      omega
    | some d =>
      rw [resume?_asleep live due, Option.ite_none_right_eq_some, Option.some.injEq] at goes
      obtain ⟨passed, rfl⟩ := goes
      obtain ⟨log, ends⟩ := advance_elapsed (w := rest) h.faults t
      obtain ⟨armed, timed⟩ := h.timed.expired live due passed w.now
      rw [World.runTask_over t.id ends]
      refine ⟨_, _, h.changed timed log, less, rfl, fun later le => ?_⟩
      rw [h.now]
      exact Reference.asOf_expire (h.time ▸ armed) le
  · have ends : rest.runTask t.id p = rest := by
      refine runTask_stopped (w := rest) live (Eq.trans ?_ goes)
      cases due : t.due with
      | none => rw [resume?_fresh rest due, resume?_fresh w due]
      | some d => rw [resume?_stopped (w := rest) live due, resume?_stopped live due]
    rw [ends]
    exact ⟨_, r, h.changed (h.timed.dropped live) w.log, less, .refl base r⟩

/-- **A turn**: one task goes on, or all are asleep. -/
theorem Stands.turn (h : Stands c base g w ts r) : (w.turn? = none ∧ Calm w ts) ∨
    ∃ w' ts' r', w.turn? = some w' ∧ Stands c base g w' ts' r' ∧ load ts' < load ts ∧
      Onward base r r' := by
  rcases h.ready with ⟨no, blocked⟩ | ⟨pre, t, post, p, rfl, goes, turn⟩
  · exact .inl ⟨no, calm_of_blocked blocked⟩
  · obtain ⟨ts', r', stands, less, onward⟩ := h.goesOn goes
    exact .inr ⟨_, ts', r', turn, stands, less, onward⟩

/-! ## Turns until all are asleep -/

/-- When all tasks are asleep, all timers that are armed go off later. -/
theorem Stands.ahead (h : Stands c base g w ts r) (calm : Calm w ts) : r.Ahead := by
  intro i d armed
  have kept := h.timed.kept i
  cases held : w.memory.registry.acquire i with
  | none =>
    rw [kept.disarmed held] at armed
    cases armed
  | some handle =>
    obtain ⟨t, ht, own, -⟩ := kept.task handle held
    obtain ⟨live, d', due, later⟩ := calm t ht
    have same := (kept.live t ht own live).1
    rw [due, armed] at same
    obtain rfl := Option.some.inj same
    exact h.time ▸ later

/-- **The tasks settle**: each turn leaves fewer to come, so that all of them are asleep in the end. -/
theorem Stands.settle {turns : Nat} (h : Stands c base g w ts r) (enough : load ts ≤ turns) :
    ∃ ts' r', Stands c base g (w.settleWithin turns) ts' r' ∧ Calm (w.settleWithin turns) ts' ∧
      load ts' ≤ load ts ∧ Onward base r r' := by
  induction turns generalizing w ts r with
  | zero =>
    obtain rfl := eq_nil_of_load (Nat.le_zero.1 enough)
    exact ⟨[], r, h, List.forall_mem_nil _, Nat.le_refl _, .refl base r⟩
  | succ turns ih =>
    unfold World.settleWithin
    rcases h.turn with ⟨no, calm⟩ | ⟨w', ts', r', yes, h', less, onward⟩
    · rw [no]
      exact ⟨ts, r, h, calm, Nat.le_refl _, .refl base r⟩
    · rw [yes]
      obtain ⟨ts'', r'', h'', calm, less', onward'⟩ := ih h' (by omega)
      exact ⟨ts'', r'', h'', calm, by omega, onward.trans onward'⟩

/-- The world stands with all its tasks asleep, and `r` is told of it. The tasks have at most `n`
turns before them. -/
def Rests (c : GatewayConfig) (base : Int) (g : Setup) (n : Nat) (w : World) (r : Reference) :
    Prop :=
  ∃ ts, Stands c base g w ts r ∧ Calm w ts ∧ load ts ≤ n

/-- **The tasks settle**, and the reference has told what becomes of them. -/
theorem Stands.settled {turns : Nat} (h : Stands c base g w ts r) (enough : load ts ≤ turns) :
    Rests c base g (load ts) (w.settleWithin turns) (r.asOf (calendar base) r.time) := by
  obtain ⟨ts', r', h', calm, less, onward⟩ := h.settle enough
  -- in the end no timer is due, so that the reference tells of the present time
  have same : r' = r.asOf (calendar base) r.time := by
    rw [← onward.asOf r.time (Nat.le_refl _), ← onward.time]
    exact ((h'.ahead calm).asOf (calendar base)).symm
  exact ⟨ts', same ▸ h', calm, less⟩

theorem Rests.mono {n n' : Nat} (h : Rests c base g n w r) (le : n ≤ n') :
    Rests c base g n' w r := by
  obtain ⟨ts, stands, calm, less⟩ := h
  exact ⟨ts, stands, calm, Nat.le_trans less le⟩

/-! ## Turns while time passes -/

/-- The next moment for which anything waits, when all tasks are asleep. -/
theorem Stands.exists_nextDeadline? (h : Stands c base g w ts r) (calm : Calm w ts) (time : Nat) :
    ∃ next, w.nextDeadline? (waiter time) = some next ∧ next ≤ time ∧
      (∀ t ∈ ts, ∃ d, t.due = some d ∧ next ≤ d) ∧
      (next = time ∨ ∃ t ∈ ts, t.due = some next) := by
  have deadline (t : Timer) : (t.thread c).rest.deadline? = t.due := by
    unfold Timer.thread
    cases t.due <;> rfl
  have moments : w.nextDeadline? (waiter time) = (time :: ts.filterMap Timer.due).min? := by
    have dues : (w.threads.filterMap fun t => t.rest.deadline?) = ts.filterMap Timer.due := by
      rw [h.threads, List.filterMap_map]
      exact List.filterMap_congr fun t _ => deadline t
    rw [World.nextDeadline?, dues]
    rfl
  obtain ⟨next, first⟩ := Option.isSome_iff_exists.1
    (List.isSome_min?_of_mem (List.mem_cons_self (a := time) (l := ts.filterMap Timer.due)))
  obtain ⟨mem, least⟩ := List.min?_eq_some_iff.1 first
  refine ⟨next, moments.trans first, least time List.mem_cons_self, fun t ht => ?_, ?_⟩
  · obtain ⟨-, d, due, -⟩ := calm t ht
    exact ⟨d, due, least d (List.mem_cons_of_mem _ (List.mem_filterMap.2 ⟨t, ht, due⟩))⟩
  · rw [List.mem_cons, List.mem_filterMap] at mem
    exact mem

/-- **The clock jumps** when all tasks are asleep. After that the wait is over, or a task is due. -/
theorem Stands.jump {time : Nat} (h : Stands c base g w ts r) (calm : Calm w ts)
    (early : ¬time ≤ w.clock) (turns : Nat) (idle : w.turn? = none) :
    ∃ next, World.drive (turns + 1) (waiter time) w =
        World.drive turns (waiter time) { w with clock := next } ∧
      Stands c base g { w with clock := next } ts { r with time := next } ∧ next ≤ time ∧
      (time ≤ next ∨ ¬Calm { w with clock := next } ts) := by
  obtain ⟨next, first, before, all, reached⟩ := h.exists_nextDeadline? calm time
  have later : w.clock ≤ next := by
    rcases reached with rfl | ⟨t, ht, due⟩
    · omega
    · obtain ⟨-, d, due', later⟩ := calm t ht
      rw [due] at due'
      cases due'
      exact Nat.le_of_lt later
  have blocked : (waiter time).resume? w = none := by rw [resume?_waiter, if_neg early]
  refine ⟨next, ?_, ?_, before, ?_⟩
  · simp only [World.drive, h.running, blocked, idle, first, Nat.max_eq_right later]
  · exact ⟨h.config, h.base, h.running, h.faults, h.threads, rfl, h.names,
      h.timed.later fun t ht _ => all t ht, h.delay, h.positive⟩
  · rcases reached with rfl | ⟨t, ht, due⟩
    · exact .inl (Nat.le_refl _)
    · refine .inr fun calm' => ?_
      obtain ⟨-, d, due', later⟩ := calm' t ht
      rw [due] at due'
      cases due'
      exact Nat.lt_irrefl _ later

/-- **Time passes**: the tasks that come due in the meantime have their turns. The clock never jumps
twice in a row before the wait is over, so each turn of a task pays for the jump before it. -/
theorem Stands.waits {time turns : Nat} (h : Stands c base g w ts r) (le : w.clock ≤ time)
    (enough : 2 * load ts + 2 ≤ turns ∨
      2 * load ts + 1 ≤ turns ∧ (time ≤ w.clock ∨ ¬Calm w ts)) :
    ∃ w' ts' r', World.drive turns (waiter time) w = (some (), w') ∧ Stands c base g w' ts' r' ∧
      w'.clock = time ∧ load ts' ≤ load ts ∧
      r'.asOf (calendar base) time = r.asOf (calendar base) time := by
  induction turns generalizing w ts r with
  | zero => omega
  | succ turns ih =>
    by_cases past : time ≤ w.clock
    · have done : World.drive (turns + 1) (waiter time) w = (some (), w) := by
        simp only [World.drive, h.running, resume?_waiter, if_pos past]
        rfl
      exact ⟨w, ts, r, done, h, Nat.le_antisymm le past, Nat.le_refl _, rfl⟩
    · rcases h.turn with ⟨no, calm⟩ | ⟨w', ts', r', yes, h', less, onward⟩
      · obtain ⟨next, jump, h', before, due⟩ := h.jump calm past turns no
        have fuel : 2 * load ts + 1 ≤ turns := by
          rcases enough with plenty | ⟨-, ready⟩
          · omega
          · exact absurd calm (ready.resolve_left past)
        rw [jump]
        obtain ⟨w', ts', r', done, h'', came, less, same⟩ := ih h' before (.inr ⟨fuel, due⟩)
        exact ⟨w', ts', r', done, h'', came, less, same⟩
      · have blocked : (waiter time).resume? w = none := by rw [resume?_waiter, if_neg past]
        have turn : World.drive (turns + 1) (waiter time) w =
            World.drive turns (waiter time) w' := by
          simp only [World.drive, h.running, blocked, yes]
        rw [turn]
        have still : w'.clock = w.clock := by rw [h'.time, onward.time, h.time]
        obtain ⟨w'', ts'', r'', done, h'', reached, less', same⟩ :=
          ih h' (still ▸ le) (.inl (by omega))
        refine ⟨w'', ts'', r'', done, h'', reached, by omega, same.trans (onward.asOf time ?_)⟩
        exact h.time ▸ le

end HistorySync

end MessageGateway
