import MessageGateway.Proofs.HistorySync.Tenants

/-!
# What is left of a worker

Requests are carried out one after the other, tasks come to the end of their time, and others write
the records of instances in between. When a worker is gone, its handle should be gone as well. So it
is if the cycle was completed, cancelled or ended by a caller, or if another one took its place.
There is one exception: a worker whose time is up, and that finds no record of its instance or one
with another cycle, ends without its handle. That handle stays until somebody starts, cancels or
ends a cycle of the instance, and as long as it stays its cycle is told to be the active one.

## Main definitions

* `HistorySync.Act`, `HistorySync.after`: requests, foreign writes, and the coordinator after them
* `HistorySync.Act.Clears`: the acts that take a handle away
* `HistorySync.Act.Strands`: the acts by which a worker ends without its handle
* `HistorySync.Left`: a handle that a worker has left behind
* `HistorySync.Accounted`: whose the handles are

## Main results

* `HistorySync.Act.turned`: what one act does to handles and workers
* `HistorySync.accounted_after`: whose the handles are, after any acts
* `HistorySync.handles_accounted`: a handle is that of a live worker, or it was left behind
* `HistorySync.handle_outlives_worker`: a handle that is left behind
-/

namespace MessageGateway

open Program Setting

/-- The call has nothing to do with handles and tokens, and it starts no task. -/
def Call.sparesCycles : Call → Bool
  | .findInstance _ => true
  | .spawn _ => false
  | c => !c.ofCycles

namespace HistorySync

variable {i j : InstanceId} {h h' : CycleHandle} {s s' t : State} {m : Memory}

/-! ## Acts -/

/-- Something that happens to the coordinator, or to the records of the instances. -/
inductive Act where
  /-- A request is carried out. -/
  | turn (t : Turn)
  /-- Others write records. -/
  | foreign (instances : InstanceStore)

section

variable (elsewhere : (c : Call) → c.Answer) (accept : SyncPayload → Except SyncError Unit)
  (c : HistorySyncConfig)

/-- The coordinator after an act. -/
def Act.apply : Act → State → State
  | .turn t, s => (t.act elsewhere accept c s).2
  | .foreign instances, s => { s with memory := { s.memory with instances } }

/-- The coordinator after acts, the last one first. -/
def after (m : Memory) : List Act → State
  | [] => opening m
  | a :: as => a.apply elsewhere accept c (after m as)

end

/-- The act takes the handle of `i` away, or puts another one in its place. -/
def Act.Clears (s : State) (i : InstanceId) : Act → Prop
  | .turn ⟨j, .cancel, _⟩ => i = j
  | .turn ⟨j, .start, _⟩ | .turn ⟨j, .finalize _, _⟩ =>
    i = j ∧ (s.memory.instances.find? j).isSome = true
  | _ => False

/-- By the act the time of a worker of `i` is up that was not stopped. It has the handle `h`, and it
finds no record of `i` or one with another cycle. -/
structure Act.Strands (s : State) (i : InstanceId) (h : CycleHandle) (a : Act) : Prop where
  expires : ∃ u, a = .turn ⟨i, .expire h.cycle, u⟩
  task : s.waiting.find? (isTask i h.cycle) = some (i, h)
  live : s.memory.tokens.isFired h.token = false
  stale : ∀ r, s.memory.instances.find? i = some r → r.cycle ≠ some h.cycle

/-! ## What an act does -/

/-- The same handles, tokens and tasks. -/
structure Alike (s t : State) : Prop where
  registry : t.memory.registry = s.memory.registry
  tokens : t.memory.tokens = s.memory.tokens
  waiting : t.waiting = s.waiting

/-- What an act does to handles, tokens and tasks. -/
inductive Turned (s t : State) (a : Act) : Prop
  /-- Nothing. -/
  | idle (alike : Alike s t) (clears : ∀ j, ¬a.Clears s j) (strands : ∀ j h, ¬a.Strands s j h)
  /-- The handle of `i` goes, and another one may come with its task. -/
  | replaced {i : InstanceId} {o : Option CycleHandle} {s' : State}
      (clears : ∀ j, a.Clears s j ↔ j = i) (strands : ∀ j h, ¬a.Strands s j h)
      (alike : Alike s s') (change : Replaced i o s' t)
  /-- The task of a worker goes, and handles stay where they are. -/
  | dropped {i : InstanceId} {h : CycleHandle}
      (task : s.waiting.find? (isTask i h.cycle) = some (i, h))
      (alike : Alike { s with waiting := s.waiting.eraseP (isTask i h.cycle) } t)
      (clears : ∀ j, ¬a.Clears s j)
      (strands : ∀ j h', a.Strands s j h' ↔
        j = i ∧ h' = h ∧ s.memory.tokens.isFired h.token = false)
  /-- The task of a worker goes, and its handle with it. -/
  | completed {i : InstanceId} {h : CycleHandle} {s' : State}
      (task : s.waiting.find? (isTask i h.cycle) = some (i, h))
      (live : s.memory.tokens.isFired h.token = false)
      (alike : Alike { s with waiting := s.waiting.eraseP (isTask i h.cycle) } s')
      (change : Replaced i none s' t)
      (clears : ∀ j, ¬a.Clears s j) (strands : ∀ j h, ¬a.Strands s j h)

/-- The handle of a worker that is not stopped is that of its instance. -/
theorem Sound.held_of_live (sound : Sound s) (task : (i, h) ∈ s.waiting)
    (live : s.memory.tokens.isFired h.token = false) : s.memory.registry.acquire i = some h := by
  rcases sound.waiting (i, h) task with stopped | held
  · rw [live] at stopped
    cases stopped
  · exact held

theorem alike_refl (s : State) : Alike s s :=
  ⟨rfl, rfl, rfl⟩

theorem Alike.sound (alike : Alike s t) (sound : Sound s) : Sound t :=
  sound.kept alike.registry alike.tokens fun _ he => alike.waiting ▸ he

section

variable {elsewhere : (c : Call) → c.Answer} {accept : SyncPayload → Except SyncError Unit}
  {c : HistorySyncConfig} {u : Supply} {wake : Wake} {α : Type}

/-! ### Requests for payloads -/

theorem kept_of_sparesCycles {call : Call} {a : call.Answer} {m' : Memory}
    (spares : call.sparesCycles = true) (answered : m.answer? call = some (a, m')) :
    m'.registry = m.registry ∧ m'.tokens = m.tokens := by
  unfold Call.sparesCycles at spares
  split at spares
  · cases answered
    exact ⟨rfl, rfl⟩
  · cases spares
  · have other := Bool.not_eq_true' _ ▸ spares
    exact (kept_of_service (service_of_answer? answered) other).2

theorem started_around {call : Call} (spares : call.sparesCycles = true) (w : Around) :
    (around elsewhere accept u wake call w).2.started = w.started := by
  cases call with
  | spawn => cases spares
  | _ => rfl

/-- A program of such calls, alone. -/
theorem alike_alone {p : Program α} (only : p.Only fun call => call.sparesCycles = true) :
    Alike s (s.alone elsewhere accept u wake p).2 := by
  have any := ensures_of_allowed (E := Solo.setting (around elsewhere accept u wake))
    (s := ⟨s.memory, {}, []⟩) (only.mono fun _ _ _ => trivial)
  have framed := any.frame only
    (I := fun t => t.memory.registry = s.memory.registry ∧ t.memory.tokens = s.memory.tokens ∧
      t.world.started = [])
    (by rintro _ _ rfl kept; exact kept)
    (fun {call v a t} spares _ _ served ⟨registry, tokens, started⟩ => by
      cases answered : v.memory.answer? call with
      | some b =>
        obtain ⟨-, rfl⟩ := Solo.answer_of_some answered served
        obtain ⟨registry', tokens'⟩ := kept_of_sparesCycles spares answered
        exact ⟨registry'.trans registry, tokens'.trans tokens, started⟩
      | none =>
        have served : Solo.answer (around elsewhere accept u wake) call v = (a, t) := served
        rw [Solo.answer, answered] at served
        cases served
        exact ⟨registry, tokens, (started_around spares _).trans started⟩)
    ⟨rfl, rfl, rfl⟩
  obtain ⟨-, registry, tokens, started⟩ := run_of_ensures framed
  refine ⟨registry, tokens, ?_⟩
  show s.waiting ++ _ = s.waiting
  rw [started, List.append_nil]

theorem processAll_spares (ps : List SyncPayload) :
    (processAll ps).run.Only fun call => call.sparesCycles = true := by
  induction ps with
  | nil => exact only_pure _
  | cons p ps ih =>
    refine Only.bindExcept (Only.map (only_request rfl)) fun r => ?_
    cases r with
    | error e => exact ih
    | ok _ =>
      refine Only.bindExcept (Only.map (only_request rfl)) fun time => ?_
      refine Only.bindExcept (Only.orFail (only_request rfl)) fun _ => ?_
      exact Only.bindExcept ih fun _ => only_pure _

theorem processPending_spares (i : InstanceId) :
    (processPending i).Only fun call => call.sparesCycles = true := by
  refine Only.bindExcept (Only.orFail (only_request rfl)) fun r => ?_
  exact Only.bindExcept (Only.orFail (only_request rfl)) fun ps => processAll_spares ps

/-! ### Any act -/

/-- A request that finds no record. -/
theorem alike_missing {p : Program α} {a : α} {reply : α → Reply}
    (run : Yields (around elsewhere accept u .elapsed) p s.memory {} a s.memory {}) :
    Alike s (s.alone elsewhere accept u .elapsed (reply <$> p)).2 := by
  rw [alone_map run, List.append_nil]
  exact alike_refl s

theorem not_strands {a : Act} (calm : ∀ i k u, a ≠ .turn ⟨i, .expire k, u⟩) :
    ¬a.Strands s j h := by
  rintro ⟨⟨u, rfl⟩, -⟩
  exact calm j h.cycle u rfl

theorem turned_start (i : InstanceId) (u : Supply) :
    Turned s (Act.apply elsewhere accept c (.turn ⟨i, .start, u⟩) s) (.turn ⟨i, .start, u⟩) := by
  cases found : s.memory.instances.find? i with
  | none =>
    refine .idle (alike_missing (yields_startCycle_none found _)) (fun j clears => ?_)
      (fun _ _ => not_strands fun _ _ _ => nofun)
    rw [Act.Clears, found] at clears
    cases clears.2
  | some r =>
    let record := r.beginSync u.cycle (u.clock 0)
    have run : Yields (around elsewhere accept u .elapsed) (startCycle i) s.memory {} (.ok u.cycle)
        (mounted (stored s.memory record) i u.cycle) ⟨1, [(i, nextHandle s.memory u.cycle)]⟩ :=
      yields_startCycle found (Around.mk 0 [])
    have alike : Alike s { s with memory := stored s.memory record } := ⟨rfl, rfl, rfl⟩
    show Turned s (s.alone elsewhere accept u .elapsed (Reply.started <$> startCycle i)).2 _
    rw [alone_map run]
    refine .replaced (fun j => ?_) (fun _ _ => not_strands fun _ _ _ => nofun) alike
      (replaced_mounted _ i _)
    rw [Act.Clears, found]
    exact and_iff_left rfl

theorem turned_cancel (i : InstanceId) (u : Supply) :
    Turned s (Act.apply elsewhere accept c (.turn ⟨i, .cancel, u⟩) s) (.turn ⟨i, .cancel, u⟩) := by
  show Turned s (s.alone elsewhere accept u .elapsed (Reply.cancelled <$> cancelCycle i)).2 _
  rw [alone_map (yields_cancelCycle s.memory _ i), List.append_nil]
  exact .replaced (fun j => .rfl) (fun _ _ => not_strands fun _ _ _ => nofun) (alike_refl s)
    (replaced_released s i)

theorem turned_finalize (i : InstanceId) (status : SyncStatus) (u : Supply) :
    Turned s (Act.apply elsewhere accept c (.turn ⟨i, .finalize status, u⟩) s)
      (.turn ⟨i, .finalize status, u⟩) := by
  cases found : s.memory.instances.find? i with
  | none =>
    refine .idle (alike_missing (yields_finalizeCycle_none found status _)) (fun j clears => ?_)
      (fun _ _ => not_strands fun _ _ _ => nofun)
    rw [Act.Clears, found] at clears
    cases clears.2
  | some r =>
    let record := finished r status (u.clock 0)
    let left : Around := if r.sync = status then ⟨0, []⟩ else ⟨1, []⟩
    have run : Yields (around elsewhere accept u .elapsed) (finalizeCycle i status) s.memory {}
        (.ok ()) (released (stored s.memory record) i) left :=
      yields_finalizeCycle found status (Around.mk 0 [])
    have none : left.started = [] := by
      simp only [left]
      split <;> rfl
    have alike : Alike s { s with memory := stored s.memory record } := ⟨rfl, rfl, rfl⟩
    show Turned s
      (s.alone elsewhere accept u .elapsed (Reply.finalized <$> finalizeCycle i status)).2 _
    rw [alone_map run, none, List.append_nil]
    refine .replaced (fun j => ?_) (fun _ _ => not_strands fun _ _ _ => nofun) alike
      (replaced_released _ i)
    rw [Act.Clears, found]
    exact and_iff_left rfl

/-- If the time of a worker is up, no other one is left without its handle. -/
theorem Act.Strands.unique (strands : Act.Strands s j h' (.turn ⟨i, .expire h.cycle, u⟩))
    (task : s.waiting.find? (isTask i h.cycle) = some (i, h)) : j = i ∧ h' = h := by
  obtain ⟨⟨_, eq⟩, task', -, -⟩ := strands
  injection eq with eq
  injection eq with owner request
  injection request with cycle
  subst owner
  rw [← cycle, task] at task'
  cases task'
  exact ⟨rfl, rfl⟩

/-- The time of a worker is up that was not stopped. -/
theorem turned_ended (sound : Sound s) (task : s.waiting.find? (isTask i h.cycle) = some (i, h))
    (live : s.memory.tokens.isFired h.token = false) :
    Turned s ⟨ended s.memory i h.cycle (u.clock 0), s.waiting.eraseP (isTask i h.cycle)⟩
      (.turn ⟨i, .expire h.cycle, u⟩) := by
  have clears (j : InstanceId) : ¬Act.Clears s j (.turn ⟨i, .expire h.cycle, u⟩) := id
  let rest : State := { s with waiting := s.waiting.eraseP (isTask i h.cycle) }
  have stranded (stale : ∀ r, s.memory.instances.find? i = some r → r.cycle ≠ some h.cycle) :
      Turned s rest (.turn ⟨i, .expire h.cycle, u⟩) := by
    refine .dropped task (alike_refl rest) clears fun j h' => ⟨fun strands => ?_, ?_⟩
    · obtain ⟨rfl, rfl⟩ := strands.unique task
      exact ⟨rfl, rfl, live⟩
    · rintro ⟨rfl, rfl, -⟩
      exact ⟨⟨u, rfl⟩, task, live, stale⟩
  unfold ended
  cases record : s.memory.instances.find? i with
  | none => exact stranded fun r there => by rw [record] at there; cases there
  | some r =>
    dsimp only
    split
    · next current =>
      have held : s.memory.registry.acquire i = some h :=
        sound.held_of_live (List.mem_of_find?_eq_some task) live
      let finish := stored s.memory (finished r .completed (u.clock 0))
      have cycle : (finish.registry.acquire i).map CycleHandle.cycle = some h.cycle := by
        show (s.memory.registry.acquire i).map _ = _
        rw [held]
        rfl
      rw [releasedFrom, if_pos cycle]
      have alike : Alike rest { rest with memory := finish } := ⟨rfl, rfl, rfl⟩
      refine .completed task live alike (replaced_released _ i) clears fun j h' strands => ?_
      obtain ⟨rfl, rfl⟩ := strands.unique task
      exact strands.stale r record current
    · next other =>
      refine stranded fun r' there => ?_
      rw [record] at there
      cases there
      exact other

theorem turned_expire (sound : Sound s) (i : InstanceId) (k : CycleId) (u : Supply) :
    Turned s (Act.apply elsewhere accept c (.turn ⟨i, .expire k, u⟩) s)
      (.turn ⟨i, .expire k, u⟩) := by
  unfold Act.apply Turn.act
  dsimp only
  cases found : s.waiting.find? (isTask i k) with
  | none =>
    refine .idle (alike_refl s) (fun _ => id) fun j h strands => ?_
    obtain ⟨⟨_, ⟨⟩⟩, task, -, -⟩ := strands
    rw [found] at task
    cases task
  | some e =>
    obtain ⟨i', h⟩ := e
    obtain ⟨rfl, rfl⟩ : i' = i ∧ h.cycle = k := by
      simpa [isTask] using List.find?_some found
    let rest : State := { s with waiting := s.waiting.eraseP (isTask i' h.cycle) }
    show Turned s (rest.alone elsewhere accept u (rest.wake h)
      ((fun _ => Reply.expired true) <$> cycleRound c i' h)).2 _
    rw [alone_cycleRound]
    cases fired : s.memory.tokens.isFired h.token with
    | true =>
      rw [if_pos rfl]
      refine .dropped found (alike_refl rest) (fun _ => id) fun j h' => ⟨fun strands => ?_, ?_⟩
      · obtain ⟨rfl, rfl⟩ := strands.unique found
        exact ⟨rfl, rfl, strands.live⟩
      · rintro ⟨-, -, live⟩
        rw [fired] at live
        cases live
    | false =>
      rw [if_neg Bool.false_ne_true]
      exact turned_ended sound found fired

/-- **What an act does to handles and workers.** -/
theorem Act.turned (sound : Sound s) (a : Act) : Turned s (a.apply elsewhere accept c s) a := by
  have spared {t : Turn} (alike : Alike s (Act.apply elsewhere accept c (.turn t) s))
      (clears : ∀ j, ¬Act.Clears s j (.turn t)) (calm : ∀ k, t.request ≠ .expire k) :
      Turned s (Act.apply elsewhere accept c (.turn t) s) (.turn t) := by
    refine .idle alike clears fun j h => not_strands fun i k u same => ?_
    injection same with same
    exact calm k (congrArg Turn.request same)
  match a with
  | .foreign instances =>
    exact .idle ⟨rfl, rfl, rfl⟩ (fun _ => id) fun j h => not_strands fun _ _ _ => nofun
  | .turn ⟨i, request, u⟩ =>
    cases request with
    | start => exact turned_start i u
    | cancel => exact turned_cancel i u
    | finalize status => exact turned_finalize i status u
    | record payload =>
      have only : (recordNotification i payload).Only fun call => call.sparesCycles = true :=
        recordNotification_only i payload rfl rfl rfl fun _ => rfl
      exact spared (alike_alone (Only.map only)) (fun _ => id) fun _ => nofun
    | process =>
      exact spared (alike_alone (Only.map (processPending_spares i))) (fun _ => id) fun _ => nofun
    | purge =>
      have only : (purge i).Only fun call => call.sparesCycles = true :=
        Only.orFail (only_request rfl)
      exact spared (alike_alone (Only.map only)) (fun _ => id) fun _ => nofun
    | expire k => exact turned_expire sound i k u

end

/-! ## Whose the handles are -/

section

variable (elsewhere : (c : Call) → c.Answer) (accept : SyncPayload → Except SyncError Unit)
  (c : HistorySyncConfig)

/-- By one of the acts a worker of `i` ended without its handle `h`, and no act since then has taken
it away. -/
def Left (m : Memory) (i : InstanceId) (h : CycleHandle) : List Act → Prop
  | [] => False
  | a :: as =>
    let s := after elsewhere accept c m as
    a.Strands s i h ∨ (Left m i h as ∧ ¬a.Clears s i)

end

/-- Every handle is that of a task that waits, or it is one of those that were `left`, of which no
task waits. -/
structure Accounted (s : State) (left : InstanceId → CycleHandle → Prop) : Prop where
  sound : Sound s
  distinct : s.waiting.Nodup
  issued : ∀ e ∈ s.waiting, e.2.token.number < s.memory.tokens.issued
  held : ∀ i h, s.memory.registry.acquire i = some h → (i, h) ∈ s.waiting ∨ left i h
  left : ∀ i h, left i h → s.memory.registry.acquire i = some h ∧ (i, h) ∉ s.waiting

/-- The element that was found is the one that is erased, and no other. -/
theorem mem_eraseP_of_find? {α : Type} {l : List α} {p : α → Bool} {a x : α} (distinct : l.Nodup)
    (found : l.find? p = some a) : x ∈ l.eraseP p ↔ x ∈ l ∧ x ≠ a := by
  obtain ⟨fits, before, later, rfl, others⟩ := List.find?_eq_some_iff_append.1 found
  have others : ∀ b ∈ before, ¬p b = true := fun b hb => by simpa using others b hb
  have strange : a ∉ before ++ later :=
    (List.nodup_cons.1 (List.perm_middle.nodup_iff.1 distinct)).1
  rw [List.eraseP_append_right _ others, List.eraseP_cons_of_pos fits,
    List.perm_middle.mem_iff, List.mem_cons]
  constructor
  · exact fun there => ⟨.inr there, fun same => strange (same ▸ there)⟩
  · rintro ⟨same | there, other⟩
    · exact absurd same other
    · exact there

namespace Accounted

variable {left left' : InstanceId → CycleHandle → Prop}

/-- Nothing happens to handles, tokens and tasks. -/
theorem idle (accounted : Accounted s left) (alike : Alike s t)
    (same : ∀ i h, left' i h ↔ left i h) : Accounted t left' where
  sound := alike.sound accounted.sound
  distinct := alike.waiting ▸ accounted.distinct
  issued e he := by
    rw [alike.tokens]
    exact accounted.issued e (alike.waiting ▸ he)
  held i h held := by
    rw [alike.registry] at held
    rw [alike.waiting, same]
    exact accounted.held i h held
  left i h there := by
    rw [alike.registry, alike.waiting]
    exact accounted.left i h ((same i h).1 there)

/-- The handle of `i` goes, with what was left of it, and another one may come with its task. -/
theorem replaced {o : Option CycleHandle} (accounted : Accounted s left) (change : Replaced i o s t)
    (same : ∀ j h, left' j h ↔ left j h ∧ j ≠ i) : Accounted t left' where
  sound := change.sound accounted.sound
  distinct := by
    rw [change.waiting]
    refine List.nodup_append.2 ⟨accounted.distinct, by cases o <;> simp, ?_⟩
    rintro e he e' he' rfl
    obtain ⟨h, new, rfl⟩ : ∃ h, o = some h ∧ (i, h) = e := by simpa using he'
    exact Nat.not_lt_of_le (change.new h new).1 (accounted.issued _ he)
  issued e he := by
    rw [change.waiting, List.mem_append] at he
    rcases he with old | new
    · exact Nat.lt_of_lt_of_le (accounted.issued e old) change.issued
    · obtain ⟨h, mounts, rfl⟩ : ∃ h, o = some h ∧ (i, h) = e := by simpa using new
      exact (change.new h mounts).2
  held j h held := by
    rw [change.waiting, List.mem_append, same]
    rcases change.held_cases held with ⟨rfl, rfl⟩ | ⟨other, old⟩
    · exact .inl (.inr (by simp))
    · rcases accounted.held j h old with task | there
      · exact .inl (.inl task)
      · exact .inr ⟨there, other⟩
  left j h there := by
    obtain ⟨there, other⟩ := (same j h).1 there
    obtain ⟨held, none⟩ := accounted.left j h there
    rw [change.acquire, if_neg other, change.waiting, List.mem_append]
    refine ⟨held, ?_⟩
    rintro (old | new)
    · exact none old
    · obtain ⟨_, -, own⟩ := List.mem_map.1 new
      exact other (congrArg Prod.fst own).symm

/-- The task of a worker goes. If it was not stopped, its handle is left. -/
theorem dropped (accounted : Accounted s left)
    (task : s.waiting.find? (isTask i h.cycle) = some (i, h))
    (same : ∀ j h', left' j h' ↔
      (j = i ∧ h' = h ∧ s.memory.tokens.isFired h.token = false) ∨ left j h') :
    Accounted { s with waiting := s.waiting.eraseP (isTask i h.cycle) } left' where
  sound := accounted.sound.kept rfl rfl fun _ => List.mem_of_mem_eraseP
  distinct := accounted.distinct.sublist List.eraseP_sublist
  issued e he := accounted.issued e (List.mem_of_mem_eraseP he)
  held j h' held := by
    rw [mem_eraseP_of_find? accounted.distinct task, same]
    rcases accounted.held j h' held with waits | there
    · by_cases own : (j, h') = (i, h)
      · cases own
        exact .inr (.inl ⟨rfl, rfl, accounted.sound.unfired _ _ held⟩)
      · exact .inl ⟨waits, own⟩
    · exact .inr (.inr there)
  left j h' there := by
    rw [mem_eraseP_of_find? accounted.distinct task]
    rcases (same j h').1 there with ⟨rfl, rfl, live⟩ | there
    · have waits := List.mem_of_find?_eq_some task
      exact ⟨accounted.sound.held_of_live waits live, fun waits => waits.2 rfl⟩
    · obtain ⟨held, none⟩ := accounted.left j h' there
      exact ⟨held, fun waits => none waits.1⟩

/-- A worker completes its cycle, and its handle goes with it. -/
theorem completed {s' : State} (accounted : Accounted s left)
    (task : s.waiting.find? (isTask i h.cycle) = some (i, h))
    (live : s.memory.tokens.isFired h.token = false)
    (alike : Alike { s with waiting := s.waiting.eraseP (isTask i h.cycle) } s')
    (change : Replaced i none s' t) : Accounted t left := by
  -- for a moment the handle is left, then it is taken out of the registry
  let meanwhile (j : InstanceId) (h' : CycleHandle) : Prop := (j = i ∧ h' = h) ∨ left j h'
  have gone : Accounted _ meanwhile := accounted.dropped task fun j h' => by
    simp only [meanwhile, live, and_true]
  refine (gone.idle alike fun _ _ => .rfl).replaced change fun j h' => ?_
  have other (there : left j h') : j ≠ i := by
    rintro rfl
    obtain ⟨held, none⟩ := accounted.left j h' there
    have waits := List.mem_of_find?_eq_some task
    rw [accounted.sound.held_of_live waits live] at held
    cases held
    exact none waits
  constructor
  · exact fun there => ⟨.inr there, other there⟩
  · rintro ⟨⟨own, -⟩ | there, other⟩
    · exact absurd own other
    · exact there

end Accounted

section

variable {elsewhere : (c : Call) → c.Answer} {accept : SyncPayload → Except SyncError Unit}
  {c : HistorySyncConfig} {α : Type} {u : Supply} {wake : Wake}

/-- **Whose the handles are**, after any acts. -/
theorem accounted_after (as : List Act) : Accounted (after elsewhere accept c m as)
    (fun i h => Left elsewhere accept c m i h as) := by
  induction as with
  | nil =>
    exact
      { sound := sound_opening m
        distinct := List.nodup_nil
        issued := List.forall_mem_nil _
        held := fun _ _ held => by cases held
        left := fun _ _ => False.elim }
  | cons a as ih =>
    have step : Turned (after elsewhere accept c m as) (after elsewhere accept c m (a :: as)) a :=
      a.turned ih.sound
    cases step with
    | idle alike clears strands =>
      refine ih.idle alike fun i h => ?_
      simp only [Left, clears, strands, not_false_eq_true, and_true, false_or]
    | replaced clears strands alike change =>
      refine (ih.idle alike fun _ _ => .rfl).replaced change fun j h => ?_
      simp only [Left, clears, strands, false_or, ne_eq]
    | dropped task alike clears strands =>
      refine (ih.dropped task fun j h => ?_).idle alike fun _ _ => .rfl
      simp only [Left, clears, strands, not_false_eq_true, and_true]
    | completed task live alike change clears strands =>
      refine (ih.completed task live alike change).idle (alike_refl _) fun i h => ?_
      simp only [Left, clears, strands, not_false_eq_true, and_true, false_or]

theorem alone_fst {p : Program α} {a : α} {m : Memory} {w : Around}
    (run : Yields (around elsewhere accept u wake) p s.memory {} a m w) :
    (s.alone elsewhere accept u wake p).1 = a := by
  obtain ⟨log, eq⟩ := run []
  simp only [State.alone, eq]

/-- **The cycle that is told to be the active one** is that of the handle, for no handle that is
there was cancelled. -/
theorem Sound.told (sound : Sound s) (i : InstanceId) (u : Supply) :
    (s.alone elsewhere accept u .elapsed (activeCycle i)).1 =
        (s.memory.registry.acquire i).map CycleHandle.cycle ∧
      (s.alone elsewhere accept u .elapsed (isRunning i)).1 =
        (s.memory.registry.acquire i).isSome := by
  have kept : (s.memory.registry.acquire i).filter (fun h => !s.memory.tokens.isFired h.token) =
      s.memory.registry.acquire i := by
    cases held : s.memory.registry.acquire i with
    | none => rfl
    | some h => simp [Option.filter, sound.unfired i h held]
  rw [alone_fst (yields_activeCycle s.memory _ i), alone_fst (yields_isRunning s.memory _ i), kept]
  exact ⟨rfl, Option.isSome_map⟩

variable (elsewhere accept c)

/-- **Whose the handles are.** After any acts, an instance has the handle of a worker that waits and
is not stopped, or one that was left behind, of which no worker waits. The cycle that is told to be
the active one is that of such a handle, and one is told to run if there is such a handle. -/
theorem handles_accounted (m : Memory) (acts : List Act) (i : InstanceId) (u : Supply) :
    let s := after elsewhere accept c m acts
    let live (h : CycleHandle) : Prop :=
      (i, h) ∈ s.waiting ∧ s.memory.tokens.isFired h.token = false
    let left (h : CycleHandle) : Prop := Left elsewhere accept c m i h acts
    (∀ h, s.memory.registry.acquire i = some h ↔ live h ∨ left h) ∧
      (∀ h, left h → (i, h) ∉ s.waiting) ∧
      (∀ k, (s.alone elsewhere accept u .elapsed (activeCycle i)).1 = some k ↔
        ∃ h, h.cycle = k ∧ (live h ∨ left h)) ∧
      ((s.alone elsewhere accept u .elapsed (isRunning i)).1 = true ↔ ∃ h, live h ∨ left h) := by
  intro s live left
  have accounted : Accounted s fun i h => Left elsewhere accept c m i h acts := accounted_after acts
  have whose (h : CycleHandle) : s.memory.registry.acquire i = some h ↔ live h ∨ left h := by
    constructor
    · intro held
      have unfired := accounted.sound.unfired i h held
      exact (accounted.held i h held).imp_left fun waits => ⟨waits, unfired⟩
    · rintro (⟨waits, unfired⟩ | there)
      · exact accounted.sound.held_of_live waits unfired
      · exact (accounted.left i h there).1
  refine ⟨whose, fun h there => (accounted.left i h there).2, fun k => ?_, ?_⟩
  · rw [(accounted.sound.told i u).1, Option.map_eq_some_iff]
    simp only [whose, and_comm]
  · rw [(accounted.sound.told i u).2, Option.isSome_iff_exists]
    simp only [whose]

end

namespace Sample

/-- Somebody else begins the cycle 2 of the first tenant. -/
def elsewhere : InstanceStore :=
  tenants.instances.replace
    ((Instance.make ⟨"A"⟩ .active).beginSync ⟨2⟩ (.ofMillis 1500))

/-- A cycle of the first tenant is started, somebody else begins another one, and the time of the
first cycle is up. -/
def overtaken : List Act :=
  [.turn (turn 2 "A" (.expire ⟨1⟩)), .foreign elsewhere, .turn (turn 1 "A" .start)]

end Sample

/-- **A handle may outlive its worker**: no task is left, but the cycle 1 of the sample is still
told to be the active one. -/
theorem handle_outlives_worker :
    let accept := fun _ => .ok ()
    let s := after Call.unanswered accept {} Sample.tenants Sample.overtaken
    let u := (Sample.turn 3 "A" .purge).supply
    s.waiting = [] ∧
      (s.memory.instances.find? ⟨"A"⟩).bind Instance.cycle = some ⟨2⟩ ∧
      (s.memory.registry.acquire ⟨"A"⟩).map CycleHandle.cycle = some ⟨1⟩ ∧
      (s.alone Call.unanswered accept u .elapsed (activeCycle ⟨"A"⟩)).1 = some ⟨1⟩ ∧
      (s.alone Call.unanswered accept u .elapsed (isRunning ⟨"A"⟩)).1 = true := by
  decide +kernel

end HistorySync

end MessageGateway
