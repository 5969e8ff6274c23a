import MessageGateway.Proofs.HistorySync.Shares

/-!
# Timers of cycles

Each start of a cycle arms a timer in place of the one that is armed: the task of the cycle, which
goes to sleep and completes the cycle when its time is up. What a timer does is spread over the
registry, the tokens, the task itself and the stored record. Here all that is tied to one cell for
each instance, and a change of the memory together with its tasks is a change of one cell.

## Main definitions

* `HistorySync.Cell`: what is told of an instance, and when its timer goes off
* `HistorySync.Timer`: a task of a cycle, asleep or about to fall asleep
* `HistorySync.Timed`: the memory, its tasks and the cells belong together

## Main results

* `HistorySync.Timed.started`, `HistorySync.Timed.released`: a timer is armed or disarmed
* `HistorySync.Timed.expired`: a timer goes off
* `HistorySync.Timed.dropped`, `HistorySync.Timed.asleep`, `HistorySync.Timed.later`: what leaves all
  cells as they are
-/

namespace MessageGateway

namespace HistorySync

/-! ## Cells -/

/-- What is told of an instance. -/
structure Cell where
  /-- The stored cycle. -/
  cycle : Option CycleId
  /-- The stored status. -/
  sync : SyncStatus
  /-- When the status last changed. -/
  updated : Option Timestamp
  /-- When the timer goes off, if it is armed. -/
  armed : Option Nat
  deriving DecidableEq

namespace Cell

/-- The record is as the cell tells. -/
structure Shows (cell : Cell) (r : Instance) : Prop where
  cycle : r.cycle = cell.cycle
  sync : r.sync = cell.sync
  updated : r.syncUpdated = cell.updated

/-- The cell once a cycle has begun, with its timer. -/
def start (cell : Cell) (k : CycleId) (now : Timestamp) (deadline : Nat) : Cell :=
  { cell with cycle := some k, sync := .running, updated := some now, armed := some deadline }

/-- The cell without a timer. -/
def cancel (cell : Cell) : Cell :=
  { cell with armed := none }

/-- The cell once the status is `status`, which is written only if it is another one. -/
def finalize (cell : Cell) (status : SyncStatus) (now : Timestamp) : Cell :=
  if cell.sync = status then cell.cancel
  else { cell with sync := status, updated := some now, armed := none }

/-- The cell once its timer has gone off. -/
def expire (cell : Cell) (now : Timestamp) : Cell :=
  { cell with sync := .completed, updated := some now, armed := none }

variable {cell : Cell} {r : Instance}

theorem shows_start (cell : Cell) (r : Instance) (k : CycleId) (now : Timestamp) (deadline : Nat) :
    (cell.start k now deadline).Shows (r.beginSync k now) :=
  ⟨rfl, rfl, rfl⟩

theorem Shows.finalize (h : cell.Shows r) (status : SyncStatus) (now : Timestamp) :
    (cell.finalize status now).Shows (finished r status now) := by
  unfold Cell.finalize finished
  rw [h.sync]
  split
  · exact ⟨h.cycle, h.sync, h.updated⟩
  · exact ⟨h.cycle, rfl, rfl⟩

theorem Shows.expire (h : cell.Shows r) (running : cell.sync = .running) (now : Timestamp) :
    (cell.expire now).Shows (finished r .completed now) := by
  have differ : ¬r.sync = .completed := by
    rw [h.sync, running]
    decide
  rw [finished, if_neg differ]
  exact ⟨h.cycle, rfl, rfl⟩

@[simp] theorem armed_finalize (status : SyncStatus) (now : Timestamp) :
    (cell.finalize status now).armed = none := by
  unfold finalize
  split <;> rfl

end Cell

/-- The cells with another one for an instance. -/
def setCell (cells : InstanceId → Cell) (i : InstanceId) (cell : Cell) : InstanceId → Cell :=
  fun j => if j = i then cell else cells j

/-! ## Timers -/

/-- A task of a cycle that has not ended. -/
structure Timer where
  /-- Its place among all tasks. -/
  id : TaskId
  /-- The instance. -/
  owner : InstanceId
  /-- The handle of the cycle. -/
  handle : CycleHandle
  /-- When it goes off; if it is not asleep yet, there is no such time. -/
  due : Option Nat

/-- The tasks, each with its instance. -/
def tasks (ts : List Timer) : List (InstanceId × CycleHandle) :=
  ts.map fun t => (t.owner, t.handle)

/-- The task was not stopped. -/
def Timer.Live (m : Memory) (t : Timer) : Prop :=
  m.tokens.isFired t.handle.token = false

/-- What stays the same: the instances that are known, and how long a cycle takes. -/
structure Setup where
  /-- The instances that have records. -/
  known : InstanceId → Prop
  /-- How long a cycle takes. -/
  delay : Nat

variable {g : Setup} {clock time : Nat} {m m' : Memory} {ts ts' : List Timer} {t u : Timer}
  {i : InstanceId} {cell : Cell} {cells : InstanceId → Cell} {k : CycleId}

/-- The cell of an instance tells what the memory has of it. Its timer is armed while it has a handle;
the task of the handle is there, and no other task of the instance is live. -/
structure Kept (g : Setup) (clock : Nat) (m : Memory) (ts : List Timer) (i : InstanceId)
    (cell : Cell) : Prop where
  record : g.known i → ∃ r, m.instances.find? i = some r ∧ cell.Shows r
  disarmed : m.registry.acquire i = none → cell.armed = none
  running : ∀ h, m.registry.acquire i = some h →
    g.known i ∧ cell.cycle = some h.cycle ∧ cell.sync = .running
  task : ∀ h, m.registry.acquire i = some h → ∃ t ∈ ts, t.owner = i ∧ t.handle = h
  live : ∀ t ∈ ts, t.owner = i → t.Live m →
    cell.armed = some (t.due.getD (clock + g.delay)) ∧ ∀ d, t.due = some d → clock ≤ d

/-- The memory, its tasks and the cells belong together. -/
structure Timed (g : Setup) (clock : Nat) (m : Memory) (ts : List Timer)
    (cells : InstanceId → Cell) : Prop where
  sound : Sound ⟨m, tasks ts⟩
  kept : ∀ i, Kept g clock m ts i (cells i)

/-- What is told of an instance stays true when nothing of it changes. -/
theorem Kept.frame (h : Kept g clock m ts i cell)
    (record : m'.instances.find? i = m.instances.find? i)
    (handle : m'.registry.acquire i = m.registry.acquire i)
    (there : ∀ h t, m.registry.acquire i = some h → t ∈ ts → t.owner = i → t.handle = h →
      ∃ t' ∈ ts', t'.owner = i ∧ t'.handle = h)
    (back : ∀ t ∈ ts', t.owner = i → t.Live m' → t ∈ ts ∧ t.Live m) :
    Kept g clock m' ts' i cell where
  record known := by
    rw [record]
    exact h.record known
  disarmed none := h.disarmed (handle.symm.trans none)
  running h' held := h.running h' (handle.symm.trans held)
  task h' held := by
    rw [handle] at held
    obtain ⟨t, ht, own, same⟩ := h.task h' held
    exact there h' t held ht own same
  live t ht own live := by
    obtain ⟨ht, live⟩ := back t ht own live
    exact h.live t ht own live

/-! ## Tasks that run without a trace -/

theorem mem_tasks (ht : t ∈ ts) : (t.owner, t.handle) ∈ tasks ts :=
  List.mem_map_of_mem ht

theorem mem_middle {pre post : List Timer} : u ∈ pre ++ t :: post ↔ u = t ∨ u ∈ pre ++ post := by
  rw [List.perm_middle.mem_iff, List.mem_cons]

theorem mem_tasks_middle {pre post : List Timer} {e : InstanceId × CycleHandle} :
    e ∈ tasks (pre ++ t :: post) ↔ e = (t.owner, t.handle) ∨ e ∈ tasks (pre ++ post) := by
  unfold tasks
  rw [(List.perm_middle.map _).mem_iff, List.map_cons, List.mem_cons]

/-- A live task is that of the handle of its instance. -/
theorem Timed.acquire (timed : Timed g clock m ts cells) (ht : t ∈ ts) (live : t.Live m) :
    m.registry.acquire t.owner = some t.handle := by
  rcases timed.sound.waiting _ (mem_tasks ht) with fired | held
  · exact absurd (fired.symm.trans live) (by decide)
  · exact held

/-- **A task that was stopped** leaves nothing behind. -/
theorem Timed.dropped {pre post : List Timer}
    (timed : Timed g clock m (pre ++ t :: post) cells) (stopped : ¬t.Live m) :
    Timed g clock m (pre ++ post) cells where
  sound := timed.sound.kept rfl rfl fun e he => mem_tasks_middle.2 (.inr he)
  kept i := by
    refine (timed.kept i).frame rfl rfl (fun h u held hu own same => ?_)
      fun u hu own live => ⟨mem_middle.2 (.inr hu), live⟩
    have unfired : u.Live m := by
      rw [Timer.Live, same]
      exact timed.sound.unfired i h held
    rcases mem_middle.1 hu with rfl | hu
    · exact absurd unfired stopped
    · exact ⟨u, hu, own, same⟩

/-- **A task that falls asleep** sleeps for the delay. -/
theorem Timed.asleep {pre post : List Timer}
    (timed : Timed g clock m (pre ++ t :: post) cells) (fresh : t.due = none) :
    Timed g clock m (pre ++ post ++ [{ t with due := some (clock + g.delay) }]) cells where
  sound := timed.sound.kept rfl rfl fun e he => by
    rw [tasks, List.map_append, List.mem_append, List.map_singleton, List.mem_singleton] at he
    exact mem_tasks_middle.2 he.symm
  kept i := by
    have old := timed.kept i
    refine ⟨old.record, old.disarmed, old.running, fun h held => ?_, fun u hu own live => ?_⟩
    · obtain ⟨u, hu, own, same⟩ := old.task h held
      rcases mem_middle.1 hu with rfl | hu
      · exact ⟨_, List.mem_append_right _ (List.mem_singleton_self _), own, same⟩
      · exact ⟨u, List.mem_append_left _ hu, own, same⟩
    · rw [List.mem_append, List.mem_singleton] at hu
      rcases hu with hu | rfl
      · exact old.live u (mem_middle.2 (.inr hu)) own live
      · obtain ⟨armed, -⟩ := old.live t (mem_middle.2 (.inl rfl)) own live
        rw [fresh] at armed
        exact ⟨armed, fun _ eq => Option.some.inj eq ▸ Nat.le_add_right _ _⟩

/-- **Time may pass** until the first of the tasks is due, when all of them are asleep. -/
theorem Timed.later (timed : Timed g clock m ts cells)
    (asleep : ∀ t ∈ ts, t.Live m → ∃ d, t.due = some d ∧ time ≤ d) :
    Timed g time m ts cells where
  sound := timed.sound
  kept i := by
    have old := timed.kept i
    refine ⟨old.record, old.disarmed, old.running, old.task, fun t ht own live => ?_⟩
    obtain ⟨d, due, le⟩ := asleep t ht live
    have armed := (old.live t ht own live).1
    rw [due] at armed ⊢
    exact ⟨armed, fun _ eq => Option.some.inj eq ▸ le⟩

/-! ## Timers that are armed and disarmed -/

/-- With a handle, the tasks of its instance are stopped; those of others stay as they are. -/
theorem Replaced.live_iff {o : Option CycleHandle} {s s' : State} (change : Replaced i o s s')
    (sound : Sound s) (tokens : s.memory.tokens = m.tokens) (ht : (t.owner, t.handle) ∈ s.waiting) :
    t.Live s'.memory ↔ t.Live m ∧ t.owner ≠ i := by
  unfold Timer.Live
  rw [change.isFired sound (sound.waiting _ ht), tokens, Bool.or_eq_false_iff,
    decide_eq_false_iff_not]

/-- **The timer of an instance is disarmed**, and its record may change too. Tasks of the instance may
end. -/
theorem Timed.released {m₁ : Memory} (timed : Timed g clock m ts cells)
    (registry : m₁.registry = m.registry) (tokens : m₁.tokens = m.tokens)
    (others : ∀ j, j ≠ i → m₁.instances.find? j = m.instances.find? j)
    (record : g.known i → ∃ r, m₁.instances.find? i = some r ∧ cell.Shows r)
    (disarmed : cell.armed = none)
    (sub : ∀ t ∈ ts', t ∈ ts) (sup : ∀ t ∈ ts, t.owner ≠ i → t ∈ ts') :
    Timed g clock (released m₁ i) ts' (setCell cells i cell) := by
  have sound : Sound ⟨m₁, tasks ts'⟩ := by
    refine timed.sound.kept registry tokens fun e he => ?_
    obtain ⟨t, ht, rfl⟩ := List.mem_map.1 he
    exact mem_tasks (sub t ht)
  have change := replaced_released ⟨m₁, tasks ts'⟩ i
  have live (t : Timer) (ht : t ∈ ts') : t.Live (HistorySync.released m₁ i) ↔
      t.Live m ∧ t.owner ≠ i := change.live_iff sound tokens (mem_tasks ht)
  refine ⟨change.sound sound, fun j => ?_⟩
  unfold setCell
  by_cases own : j = i
  · subst own
    rw [if_pos rfl]
    have none : (HistorySync.released m₁ j).registry.acquire j = none :=
      (acquire_released m₁ j j).trans (if_pos rfl)
    refine ⟨record, fun _ => disarmed, fun h held => ?_, fun h held => ?_, fun t ht own alive => ?_⟩
    · rw [none] at held
      cases held
    · rw [none] at held
      cases held
    · exact absurd own ((live t ht).1 alive).2
  · rw [if_neg own]
    refine (timed.kept j).frame (others j own) ?_ (fun h t _ ht mine same => ?_)
      fun t ht _ alive => ⟨sub t ht, ((live t ht).1 alive).1⟩
    · rw [acquire_released, if_neg own, registry]
    · exact ⟨t, sup t ht (mine ▸ own), mine, same⟩

/-- **The timer of an instance is armed** for a cycle that starts now, in place of the one that it
had. -/
theorem Timed.mounted (timed : Timed g clock m ts cells) (m₁ : Memory)
    (registry : m₁.registry = m.registry) (tokens : m₁.tokens = m.tokens)
    (others : ∀ j, j ≠ i → m₁.instances.find? j = m.instances.find? j)
    (known : g.known i) (record : ∃ r, m₁.instances.find? i = some r ∧ cell.Shows r)
    (cycle : cell.cycle = some k) (running : cell.sync = .running)
    (armed : cell.armed = some (clock + g.delay)) (id : TaskId) :
    Timed g clock (mounted m₁ i k) (ts ++ [⟨id, i, nextHandle m₁ k, none⟩])
      (setCell cells i cell) := by
  have sound : Sound ⟨m₁, tasks ts⟩ := timed.sound.kept registry tokens fun _ he => he
  have change := replaced_mounted ⟨m₁, tasks ts⟩ i k
  have live (t : Timer) (ht : t ∈ ts) : t.Live (HistorySync.mounted m₁ i k) ↔
      t.Live m ∧ t.owner ≠ i := change.live_iff sound tokens (mem_tasks ht)
  have all : tasks (ts ++ [⟨id, i, nextHandle m₁ k, none⟩]) =
      tasks ts ++ [(i, nextHandle m₁ k)] := List.map_append
  refine ⟨all ▸ change.sound sound, fun j => ?_⟩
  unfold setCell
  by_cases own : j = i
  · subst own
    rw [if_pos rfl]
    have held : (HistorySync.mounted m₁ j k).registry.acquire j = some (nextHandle m₁ k) :=
      (acquire_mounted m₁ j k j).trans (if_pos rfl)
    refine ⟨fun _ => record, fun none => ?_, fun h held' => ?_, fun h held' => ?_,
      fun t ht mine alive => ?_⟩
    · rw [held] at none
      cases none
    · obtain rfl := Option.some.inj (held.symm.trans held')
      exact ⟨known, cycle, running⟩
    · obtain rfl := Option.some.inj (held.symm.trans held')
      exact ⟨_, List.mem_append_right _ (List.mem_singleton_self _), rfl, rfl⟩
    · rw [List.mem_append, List.mem_singleton] at ht
      rcases ht with old | rfl
      · exact absurd mine ((live t old).1 alive).2
      · exact ⟨armed, fun _ none => by cases none⟩
  · rw [if_neg own]
    refine (timed.kept j).frame (others j own) ?_ (fun h t _ ht mine same => ?_)
      fun t ht mine alive => ?_
    · rw [acquire_mounted, if_neg own, registry]
    · exact ⟨t, List.mem_append_left _ ht, mine, same⟩
    · rw [List.mem_append, List.mem_singleton] at ht
      rcases ht with old | rfl
      · exact ⟨old, ((live t old).1 alive).1⟩
      · exact absurd mine.symm own

/-- **A cycle starts** on an instance: its record is overwritten, and its timer is armed. -/
theorem Timed.started {r : Instance} (timed : Timed g clock m ts cells) (known : g.known i)
    (found : m.instances.find? i = some r) (now : Timestamp) (id : TaskId) :
    Timed g clock (HistorySync.mounted (stored m (r.beginSync k now)) i k)
      (ts ++ [⟨id, i, nextHandle m k, none⟩])
      (setCell cells i ((cells i).start k now (clock + g.delay))) := by
  have named : (r.beginSync k now).id = i := Table.key_of_find? (a := r) found
  have find := find?_stored found named
  refine timed.mounted (stored m (r.beginSync k now)) rfl rfl (fun j other => ?_) known
    ⟨r.beginSync k now, ?_, Cell.shows_start _ r k now _⟩ rfl rfl rfl id
  · rw [find, if_neg other]
  · rw [find, if_pos rfl]

/-- **A timer goes off** at its time: the cycle is completed, and the timer is disarmed. -/
theorem Timed.expired {pre post : List Timer} {d : Nat}
    (timed : Timed g clock m (pre ++ t :: post) cells) (live : t.Live m)
    (due : t.due = some d) (passed : d ≤ clock) (now : Timestamp) :
    (cells t.owner).armed = some clock ∧
      Timed g clock (ended m t.owner t.handle.cycle now) (pre ++ post)
        (setCell cells t.owner ((cells t.owner).expire now)) := by
  have ht : t ∈ pre ++ t :: post := mem_middle.2 (.inl rfl)
  have kept := timed.kept t.owner
  have held := timed.acquire ht live
  obtain ⟨known, cycle, running⟩ := kept.running t.handle held
  obtain ⟨r, found, shows⟩ := kept.record known
  obtain ⟨armed, late⟩ := kept.live t ht rfl live
  constructor
  · rw [armed, due]
    exact congrArg some (Nat.le_antisymm passed (late d due))
  · -- the stored cycle and the handle are those of the task, so that the end is written
    have written : ended m t.owner t.handle.cycle now =
        HistorySync.released (stored m (finished r .completed now)) t.owner := by
      have current : r.cycle = some t.handle.cycle := shows.cycle.trans cycle
      have same : (stored m (finished r .completed now)).registry = m.registry := rfl
      simp only [ended, found, current, if_true, releasedFrom, same, held, Option.map_some]
    have named : (finished r .completed now).id = t.owner := by
      rw [id_finished, Table.key_of_find? found]
    have find := find?_stored found named
    rw [written]
    refine timed.released rfl rfl (fun j other => ?_) (fun _ => ?_) rfl
      (fun u hu => mem_middle.2 (.inr hu)) fun u hu other => ?_
    · rw [find, if_neg other]
    · exact ⟨_, (find t.owner).trans (if_pos rfl), shows.expire running now⟩
    · rcases mem_middle.1 hu with rfl | hu
      · exact absurd rfl other
      · exact hu

end HistorySync

end MessageGateway
