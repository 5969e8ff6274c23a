import MessageGateway.Proofs.HistorySync.Alone
import MessageGateway.Proofs.HistorySync.Handles

/-!
# Shares of the coordinator's memory

All tenants share the stores, the registry and the tokens of one memory, and their tasks wait side by
side. What a tenant can see of that is its share. A change of the memory for one tenant moves its own
share, in a way that depends on nothing else, and leaves all other shares alone. For the tokens, which
are fired one by one, that rests on whose they are: no two handles have the same, and a task that was
not stopped is that of the handle of its tenant.

## Main definitions

* `HistorySync.State`: the coordinator between two requests
* `HistorySync.Share`, `HistorySync.State.share`: what a tenant sees
* `HistorySync.Sound`: which tokens were fired
* `HistorySync.Moves i s t share`: changes for the tenant `i`, whose share is `share` afterwards

## Main results

* `HistorySync.Replaced.isFired`: only the tokens of the tenant are fired with its handle
* `HistorySync.moves_stored`, `HistorySync.moves_released`, `HistorySync.moves_mounted`,
  `HistorySync.moves_ended`: what each change does to the share of the tenant
* `HistorySync.handled_payloadsOf`, `HistorySync.payloadsOf_handled`: processing, for the tenant and
  for the others
-/

namespace MessageGateway

namespace HistorySync

/-- The coordinator between two requests. -/
structure State where
  /-- What is kept. -/
  memory : Memory
  /-- The tasks that wait until their time is up, each with its tenant. -/
  waiting : List (InstanceId × CycleHandle)

/-! ## Shares -/

/-- The cycles of the tasks of a tenant, and whether each task was stopped. -/
def tasksOf (b : TokenBox) (l : List (InstanceId × CycleHandle)) (i : InstanceId) :
    List (CycleId × Bool) :=
  (l.filter fun e => decide (e.1 = i)).map fun e => (e.2.cycle, b.isFired e.2.token)

/-- The payloads of a tenant. -/
def payloadsOf (rows : List SyncPayload) (i : InstanceId) : List SyncPayload :=
  rows.filter fun p => decide (p.owner = i)

/-- What a tenant sees. -/
structure Share where
  /-- The record of the instance. -/
  record : Option Instance
  /-- What was announced to it, in the order in which it came. -/
  payloads : List SyncPayload
  /-- The cycle of its handle, if it has one, and whether that was cancelled. -/
  handle : Option (CycleId × Bool)
  /-- The cycles of its tasks that wait, and whether each was stopped. -/
  waiting : List (CycleId × Bool)
  deriving DecidableEq

/-- The share of a tenant. -/
def State.share (s : State) (i : InstanceId) : Share where
  record := s.memory.instances.find? i
  payloads := payloadsOf s.memory.payloads.rows i
  handle := (s.memory.registry.acquire i).map fun h => (h.cycle, s.memory.tokens.isFired h.token)
  waiting := tasksOf s.memory.tokens s.waiting i

/-- The task is that of the cycle `k` of the tenant. -/
def isTask (i : InstanceId) (k : CycleId) (e : InstanceId × CycleHandle) : Bool :=
  decide (e.1 = i) && decide (e.2.cycle = k)

namespace Share

/-- The tasks, all of them stopped. -/
def stop (l : List (CycleId × Bool)) : List (CycleId × Bool) :=
  l.map fun e => (e.1, true)

/-- The share without a handle. -/
def release (s : Share) : Share :=
  { s with handle := none, waiting := stop s.waiting }

/-- The share with a handle for a cycle that starts now, and its task. -/
def mount (s : Share) (k : CycleId) : Share :=
  { s with handle := some (k, false), waiting := stop s.waiting ++ [(k, false)] }

/-- The share once the time of the cycle `k` is up. -/
def ended (s : Share) (k : CycleId) (time : Timestamp) : Share :=
  match s.record with
  | none => s
  | some r =>
    if r.cycle = some k then
      let written := { s with record := some (finished r .completed time) }
      if s.handle.map Prod.fst = some k then written.release else written
    else s

/-- The payloads of the cycle that are pending; if there is no cycle, all that are. -/
def pending (s : Share) (k : Option CycleId) : List SyncPayload :=
  s.payloads.filter fun p => p.isPending && (k.isNone || p.cycle == k)

end Share

variable {s t : State} {i j : InstanceId} {h : CycleHandle}

/-! ## Tasks and tokens -/

theorem tasksOf_append (b : TokenBox) (l l' : List (InstanceId × CycleHandle)) (i : InstanceId) :
    tasksOf b (l ++ l') i = tasksOf b l i ++ tasksOf b l' i := by
  unfold tasksOf
  rw [List.filter_append, List.map_append]

theorem tasksOf_singleton (b : TokenBox) (i j : InstanceId) (h : CycleHandle) :
    tasksOf b [(i, h)] j = if j = i then [(h.cycle, b.isFired h.token)] else [] := by
  unfold tasksOf
  by_cases own : i = j
  · simp [own]
  · have other : ¬j = i := fun e => own e.symm
    simp [own, other]

/-- The tokens of handles were issued and not fired, no two handles have the same, and a task that was
not stopped is that of the handle of its tenant. -/
structure Sound (s : State) : Prop extends Issuing s.memory where
  unfired : ∀ i h, s.memory.registry.acquire i = some h → s.memory.tokens.isFired h.token = false
  apart : ∀ i j h h', s.memory.registry.acquire i = some h → s.memory.registry.acquire j = some h' →
    h.token = h'.token → i = j
  waiting : ∀ e ∈ s.waiting, s.memory.tokens.isFired e.2.token = true ∨
    s.memory.registry.acquire e.1 = some e.2

/-- In `t`, the handle `o` stands in the place of the one that `i` had in `s`, of which the token was
fired. If there is a handle, then its token is new and its task waits. -/
structure Replaced (i : InstanceId) (o : Option CycleHandle) (s t : State) : Prop where
  instances : t.memory.instances = s.memory.instances
  payloads : t.memory.payloads = s.memory.payloads
  acquire : ∀ j, t.memory.registry.acquire j = if j = i then o else s.memory.registry.acquire j
  fired : ∀ x, t.memory.tokens.isFired x = (s.memory.tokens.isFired x ||
    (s.memory.registry.acquire i).any fun h => decide (x = h.token))
  issued : s.memory.tokens.issued ≤ t.memory.tokens.issued
  new : ∀ h, o = some h → s.memory.tokens.issued ≤ h.token.number ∧
    h.token.number < t.memory.tokens.issued
  waiting : t.waiting = s.waiting ++ o.toList.map fun h => (i, h)

theorem issued_dismissed (b : TokenBox) (o : Option CycleHandle) :
    (dismissed b o).issued = b.issued := by
  cases o with
  | none => rfl
  | some h =>
    simp only [dismissed, TokenBox.fire]
    split <;> rfl

theorem replaced_released (s : State) (i : InstanceId) :
    Replaced i none s { s with memory := released s.memory i } where
  instances := rfl
  payloads := rfl
  acquire := acquire_released s.memory i
  fired := isFired_dismissed s.memory.tokens _
  issued := Nat.le_of_eq (issued_dismissed s.memory.tokens _).symm
  new _ none := by cases none
  waiting := (List.append_nil _).symm

theorem replaced_mounted (s : State) (i : InstanceId) (k : CycleId) :
    Replaced i (some (nextHandle s.memory k)) s
      ⟨mounted s.memory i k, s.waiting ++ [(i, nextHandle s.memory k)]⟩ where
  instances := rfl
  payloads := rfl
  acquire := acquire_mounted s.memory i k
  fired := isFired_dismissed s.memory.tokens.issue.2 _
  issued := by
    show _ ≤ (dismissed _ _).issued
    rw [issued_dismissed]
    exact Nat.le_succ _
  new h eq := by
    cases eq
    show _ ∧ _ < (dismissed _ _).issued
    rw [issued_dismissed]
    exact ⟨Nat.le_refl _, Nat.lt_succ_self _⟩
  waiting := rfl

namespace Replaced

variable {o : Option CycleHandle}

/-- **Only the tokens of the tenant** are fired with its handle. -/
theorem isFired (change : Replaced i o s t) (sound : Sound s)
    (ours : s.memory.tokens.isFired h.token = true ∨ s.memory.registry.acquire j = some h) :
    t.memory.tokens.isFired h.token =
      (s.memory.tokens.isFired h.token || decide (j = i)) := by
  rw [change.fired]
  rcases ours with fired | held
  · simp [fired]
  · by_cases own : j = i
    · subst own
      simp [held]
    · cases other : s.memory.registry.acquire i with
      | none => simp [own]
      | some h' =>
        have differ : h.token ≠ h'.token := fun e => own (sound.apart _ _ _ _ held other e)
        simp [own, differ]

/-- No token is fired that was not issued before. -/
theorem number_lt (change : Replaced i o s t) (sound : Sound s) {x : Token}
    (fired : t.memory.tokens.isFired x = true) : x.number < s.memory.tokens.issued := by
  rw [change.fired, Bool.or_eq_true] at fired
  rcases fired with old | new
  · exact sound.fired x (of_decide_eq_true old)
  · obtain ⟨h, held, rfl⟩ : ∃ h, s.memory.registry.acquire i = some h ∧ x = h.token := by
      simpa [Option.any_eq_true] using new
    exact sound.held i h held

theorem new_unfired (change : Replaced i o s t) (sound : Sound s) (new : o = some h) :
    t.memory.tokens.isFired h.token = false := by
  refine Bool.eq_false_iff.2 fun fired => ?_
  have old := change.number_lt sound fired
  have := (change.new h new).1
  omega

/-- A handle that is there afterwards is the new one, or it is that of another tenant. -/
theorem held_cases (change : Replaced i o s t) (held : t.memory.registry.acquire j = some h) :
    (j = i ∧ o = some h) ∨ (j ≠ i ∧ s.memory.registry.acquire j = some h) := by
  rw [change.acquire] at held
  split at held
  · next own => exact .inl ⟨own, held⟩
  · next other => exact .inr ⟨other, held⟩

theorem sound (change : Replaced i o s t) (sound : Sound s) : Sound t where
  fired x hx := Nat.lt_of_lt_of_le (change.number_lt sound (decide_eq_true hx)) change.issued
  held j h held := by
    rcases change.held_cases held with ⟨-, new⟩ | ⟨-, old⟩
    · exact (change.new h new).2
    · exact Nat.lt_of_lt_of_le (sound.held j h old) change.issued
  unfired j h held := by
    rcases change.held_cases held with ⟨-, new⟩ | ⟨other, old⟩
    · exact change.new_unfired sound new
    · rw [change.isFired sound (.inr old), sound.unfired j h old, decide_eq_false other]
      rfl
  apart j j' h h' held held' same := by
    rcases change.held_cases held with ⟨own, new⟩ | ⟨-, old⟩ <;>
      rcases change.held_cases held' with ⟨own', new'⟩ | ⟨-, old'⟩
    · rw [own, own']
    · have := (change.new h new).1
      have := sound.held j' h' old'
      rw [same] at *
      omega
    · have := (change.new h' new').1
      have := sound.held j h old
      rw [same] at *
      omega
    · exact sound.apart j j' h h' old old' same
  waiting e he := by
    rw [change.waiting, List.mem_append] at he
    rcases he with old | new
    · rw [change.isFired sound (sound.waiting e old), change.acquire]
      by_cases own : e.1 = i
      · simp [own]
      · simpa [own] using sound.waiting e old
    · obtain ⟨h', same, rfl⟩ : ∃ h', o = some h' ∧ (i, h') = e := by simpa using new
      rw [change.acquire, if_pos rfl]
      exact .inr same

theorem tasksOf (change : Replaced i o s t) (sound : Sound s) (j : InstanceId) :
    tasksOf t.memory.tokens s.waiting j =
      if j = i then Share.stop (tasksOf s.memory.tokens s.waiting j)
      else HistorySync.tasksOf s.memory.tokens s.waiting j := by
  have fired : ∀ e ∈ s.waiting.filter fun e => decide (e.1 = j),
      t.memory.tokens.isFired e.2.token =
        (s.memory.tokens.isFired e.2.token || decide (j = i)) := by
    intro e he
    obtain ⟨there, own⟩ := List.mem_filter.1 he
    have own : e.1 = j := of_decide_eq_true own
    exact change.isFired sound (own ▸ sound.waiting e there)
  unfold HistorySync.tasksOf Share.stop
  split
  · next own =>
    rw [List.map_map]
    refine List.map_congr_left fun e he => ?_
    simp [fired e he, own]
  · next other =>
    refine List.map_congr_left fun e he => ?_
    simp [fired e he, other]

/-- **The share of the tenant** has the new handle and its task. -/
theorem share_own (change : Replaced i o s t) (sound : Sound s) :
    t.share i = { s.share i with
      handle := o.map fun h => (h.cycle, false)
      waiting := Share.stop (s.share i).waiting ++ o.toList.map fun h => (h.cycle, false) } := by
  have tasks := change.tasksOf sound i
  rw [if_pos rfl] at tasks
  unfold State.share
  rw [change.instances, change.payloads, change.acquire, if_pos rfl, change.waiting,
    tasksOf_append, tasks]
  cases o with
  | none => rfl
  | some h =>
    have unfired := change.new_unfired sound rfl
    have single := tasksOf_singleton t.memory.tokens i i h
    rw [if_pos rfl, unfired] at single
    simp only [Option.map_some, Option.toList_some, List.map_singleton, unfired, single]

/-- **The shares of the others** stay as they are. -/
theorem share_of_ne (change : Replaced i o s t) (sound : Sound s) (other : j ≠ i) :
    t.share j = s.share j := by
  have tasks := change.tasksOf sound j
  rw [if_neg other] at tasks
  have new : HistorySync.tasksOf t.memory.tokens (o.toList.map fun h => (i, h)) j = [] := by
    cases o with
    | none => rfl
    | some h => exact (tasksOf_singleton _ i j h).trans (if_neg other)
  unfold State.share
  rw [change.instances, change.payloads, change.acquire, if_neg other, change.waiting,
    tasksOf_append, tasks, new, List.append_nil]
  simp only [Share.mk.injEq, true_and, and_true]
  refine Option.map_congr fun h held => ?_
  rw [change.isFired sound (.inr held), decide_eq_false other, Bool.or_false]

end Replaced

/-! ## Changes for a tenant -/

/-- The coordinator comes from `s` to `t` by changes for the tenant `i`, whose share is `share`
afterwards; no payload is new. -/
structure Moves (i : InstanceId) (s t : State) (share : Share) : Prop where
  sound : Sound t
  own : t.share i = share
  others : ∀ j, j ≠ i → t.share j = s.share j
  named : ∀ p ∈ t.memory.payloads.rows, ∃ q ∈ s.memory.payloads.rows, q.id = p.id

theorem moves_refl (sound : Sound s) (i : InstanceId) : Moves i s s (s.share i) :=
  ⟨sound, rfl, fun _ _ => rfl, fun p hp => ⟨p, hp, rfl⟩⟩

theorem Moves.trans {t' : State} {a b : Share} (h : Moves i s t a) (h' : Moves i t t' b) :
    Moves i s t' b where
  sound := h'.sound
  own := h'.own
  others j other := (h'.others j other).trans (h.others j other)
  named p hp := by
    obtain ⟨q, hq, same⟩ := h'.named p hp
    obtain ⟨q', hq', same'⟩ := h.named q hq
    exact ⟨q', hq', same'.trans same⟩

/-- A change that leaves handles and tokens alone. -/
theorem Sound.kept (sound : Sound s) (registry : t.memory.registry = s.memory.registry)
    (tokens : t.memory.tokens = s.memory.tokens) (waiting : ∀ e ∈ t.waiting, e ∈ s.waiting) :
    Sound t where
  fired := by rw [tokens]; exact sound.fired
  held := by rw [tokens, registry]; exact sound.held
  unfired := by rw [tokens, registry]; exact sound.unfired
  apart := by rw [registry]; exact sound.apart
  waiting e he := by
    rw [tokens, registry]
    exact sound.waiting e (waiting e he)

theorem moves_stored {r₀ : Instance} (sound : Sound s) (found : s.memory.instances.find? i = some r₀)
    (r : Instance) (named : r.id = i) : Moves i s { s with memory := stored s.memory r }
      { s.share i with record := some r } := by
  have share (j : InstanceId) : State.share { s with memory := stored s.memory r } j =
      if j = i then { s.share j with record := some r } else s.share j := by
    unfold State.share
    rw [find?_stored found named]
    split <;> rfl
  refine ⟨sound.kept rfl rfl fun _ he => he, ?_, fun j other => ?_, fun p hp => ⟨p, hp, rfl⟩⟩
  · rw [share, if_pos rfl]
  · rw [share, if_neg other]

theorem Replaced.moves {o : Option CycleHandle} (change : Replaced i o s t) (sound : Sound s) :
    Moves i s t { s.share i with
      handle := o.map fun h => (h.cycle, false)
      waiting := Share.stop (s.share i).waiting ++ o.toList.map fun h => (h.cycle, false) } where
  sound := change.sound sound
  own := change.share_own sound
  others _ other := change.share_of_ne sound other
  named p hp := ⟨p, change.payloads ▸ hp, rfl⟩

theorem moves_released (sound : Sound s) (i : InstanceId) :
    Moves i s { s with memory := released s.memory i } (s.share i).release := by
  have moves := (replaced_released s i).moves sound
  simpa [Share.release] using moves

theorem moves_mounted (sound : Sound s) (i : InstanceId) (k : CycleId) :
    Moves i s ⟨mounted s.memory i k, s.waiting ++ [(i, nextHandle s.memory k)]⟩
      ((s.share i).mount k) :=
  (replaced_mounted s i k).moves sound

theorem tasksOf_eraseP (b : TokenBox) (l : List (InstanceId × CycleHandle)) (i : InstanceId)
    (k : CycleId) : tasksOf b (l.eraseP (isTask i k)) i =
      (tasksOf b l i).eraseP fun e => decide (e.1 = k) := by
  unfold tasksOf
  rw [List.eraseP_map, List.eraseP_filter]
  congr 3
  funext e
  exact Bool.and_comm _ _

theorem tasksOf_eraseP_of_ne (b : TokenBox) (l : List (InstanceId × CycleHandle)) (k : CycleId)
    (other : j ≠ i) : tasksOf b (l.eraseP (isTask i k)) j = tasksOf b l j := by
  unfold tasksOf
  congr 1
  induction l with
  | nil => rfl
  | cons e l ih =>
    rw [List.eraseP_cons, List.filter_cons]
    by_cases task : isTask i k e = true
    · have own : e.1 = i := by
        simp only [isTask, Bool.and_eq_true, decide_eq_true_eq] at task
        exact task.1
      have away : ¬e.1 = j := fun same => other (same.symm.trans own)
      simp [task, away]
    · simp only [Bool.not_eq_true] at task
      simp only [task, cond_false, List.filter_cons, ih]

/-- The end of a task that was the first one of its cycle. -/
theorem moves_erased (sound : Sound s) (i : InstanceId) (k : CycleId) :
    Moves i s { s with waiting := s.waiting.eraseP (isTask i k) }
      { s.share i with waiting := (s.share i).waiting.eraseP fun e => decide (e.1 = k) } where
  sound := sound.kept rfl rfl fun e he => List.mem_of_mem_eraseP he
  own := by
    unfold State.share
    rw [tasksOf_eraseP]
  others j other := by
    unfold State.share
    rw [tasksOf_eraseP_of_ne _ _ _ other]
  named p hp := ⟨p, hp, rfl⟩

/-- Once the time of a cycle is up. -/
theorem moves_ended (sound : Sound s) (i : InstanceId) (k : CycleId) (time : Timestamp) :
    Moves i s { s with memory := ended s.memory i k time } ((s.share i).ended k time) := by
  unfold ended Share.ended
  show Moves i s _ (match s.memory.instances.find? i with | none => _ | some r => _)
  cases found : s.memory.instances.find? i with
  | none => exact moves_refl sound i
  | some r =>
    have named : (finished r .completed time).id = i := by
      rw [id_finished, Table.key_of_find? found]
    dsimp only
    split
    · have moves := moves_stored sound found (finished r .completed time) named
      have cycle : (s.share i).handle.map Prod.fst =
          (s.memory.registry.acquire i).map CycleHandle.cycle := Option.map_map ..
      rw [cycle]
      unfold releasedFrom
      show Moves i s { s with memory := if (s.memory.registry.acquire i).map _ = some k then _ else _ }
        _
      split
      · have release := moves_released moves.sound i
        rw [moves.own] at release
        exact moves.trans release
      · exact moves
    · exact moves_refl sound i

/-! ## Payloads -/

section

variable {accept : SyncPayload → Except SyncError Unit} {ω : Type} {date : ω → Timestamp × ω}
  {rows ps : List SyncPayload} {q : SyncPayload} {id : PayloadId} {time : Timestamp} {w : ω}

theorem of_mem_marked (h : q ∈ marked id time rows) :
    ∃ q' ∈ rows, q'.id = q.id ∧ q'.owner = q.owner := by
  obtain ⟨q', hq', rfl⟩ := List.mem_map.1 h
  refine ⟨q', hq', ?_⟩
  split <;> exact ⟨rfl, rfl⟩

/-- A payload keeps its owner when it is marked. -/
theorem payloadsOf_marked (id : PayloadId) (time : Timestamp) (rows : List SyncPayload)
    (i : InstanceId) : payloadsOf (marked id time rows) i = marked id time (payloadsOf rows i) := by
  unfold payloadsOf marked
  rw [List.filter_map]
  congr 2
  funext q
  simp only [Function.comp]
  split <;> rfl

theorem marked_of_ne (h : ∀ q ∈ rows, q.id ≠ id) : marked id time rows = rows := by
  unfold marked
  conv => rhs; rw [← List.map_id rows]
  exact List.map_congr_left fun q hq => if_neg (h q hq)

theorem of_mem_handled (h : q ∈ (handled accept date ps rows w).2.1) :
    ∃ q' ∈ rows, q'.id = q.id ∧ q'.owner = q.owner := by
  induction ps generalizing rows w with
  | nil => exact ⟨q, h, rfl, rfl⟩
  | cons p ps ih =>
    unfold handled at h
    split at h
    · exact ih h
    · obtain ⟨q', hq', id, owner⟩ := ih h
      obtain ⟨q'', hq'', id', owner'⟩ := of_mem_marked hq'
      exact ⟨q'', hq'', id'.trans id, owner'.trans owner⟩

/-- **Processing among the payloads of one instance** comes to the same as among all. -/
theorem handled_payloadsOf (accept : SyncPayload → Except SyncError Unit)
    (date : ω → Timestamp × ω) (ps rows : List SyncPayload) (i : InstanceId) (w : ω) :
    handled accept date ps (payloadsOf rows i) w =
      ((handled accept date ps rows w).1, payloadsOf (handled accept date ps rows w).2.1 i,
        (handled accept date ps rows w).2.2) := by
  induction ps generalizing rows w with
  | nil => rfl
  | cons p ps ih =>
    unfold handled
    cases accept p with
    | error e => exact ih rows w
    | ok _ =>
      dsimp only
      rw [← payloadsOf_marked, ih]

/-- **Processing leaves alone** the payloads of an instance of which none is processed. -/
theorem payloadsOf_handled (strange : ∀ p ∈ ps, ∀ q ∈ rows, q.owner = j → q.id ≠ p.id) :
    payloadsOf (handled accept date ps rows w).2.1 j = payloadsOf rows j := by
  induction ps generalizing rows w with
  | nil => rfl
  | cons p ps ih =>
    obtain ⟨first, later⟩ := List.forall_mem_cons.1 strange
    unfold handled
    split
    · exact ih later
    · refine (ih fun p' hp' q hq own => ?_).trans ?_
      · obtain ⟨q', hq', id, owner⟩ := of_mem_marked hq
        rw [← id]
        exact later p' hp' q' hq' (owner.trans own)
      · rw [payloadsOf_marked]
        refine marked_of_ne fun q hq => ?_
        obtain ⟨hq, own⟩ := List.mem_filter.1 hq
        exact first q hq (of_decide_eq_true own)

end

end HistorySync

end MessageGateway
