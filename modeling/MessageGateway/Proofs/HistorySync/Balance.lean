import MessageGateway.Proofs.HistorySync.Processing

/-!
# The balance of announcements

Announcements come to the payload store, wait, are accepted and marked as done, or are forgotten.
The log tells what has come and what was accepted, and the store tells what waits. Under each name,
what was accepted and what waits are together no more than what has come, except that what was just
accepted waits until it is marked.

## Main definitions

* `HistorySync.payloadService`: the payload store answers, and anything may come of other calls
* `HistorySync.arrivals`, `HistorySync.acceptances`, `HistorySync.waiting`: what has come under a
  name, what was accepted, and what waits
* `HistorySync.Undisturbed`: what others may do to the balance
* `HistorySync.Ready`, `HistorySync.Due`, `HistorySync.Marking`: the balance outside of a
  processing, before an announcement is processed, and before it is marked

## Main results

* `HistorySync.rows_of_payloadService`: what a call does to the payloads
* `HistorySync.undisturbed_next`: a call that accepts nothing does not disturb the balance
* `HistorySync.Due.accept`, `HistorySync.Marking.mark`: an announcement is accepted and marked
-/

namespace MessageGateway

open Program Setting

namespace Exchange

/-- The announcement that was stored. -/
def announced? : Exchange → Option SyncPayload
  | ⟨.createPayload p, .ok _⟩ => some p
  | _ => none

/-- The announcement that the processor accepted. -/
def processed? : Exchange → Option SyncPayload
  | ⟨.processPayload p, .ok _⟩ => some p
  | _ => none

end Exchange

/-- The call is one of the payload store. -/
def Call.ofPayloads : Call → Bool
  | .createPayload _ | .pendingPayloads .. | .markPayload .. | .purgePayloads _ => true
  | _ => false

/-- The name of an announcement, with its owner. -/
def SyncPayload.key (p : SyncPayload) : InstanceId × PayloadId :=
  (p.owner, p.id)

namespace HistorySync

/-! ## The payload store among others -/

/-- The payload store answers its calls. Anything may come of any other call, and the rest of the
memory may change in any way, but the store stays as it is. -/
def payloadService : Service := fun m c a m' =>
  if c.ofPayloads then m.answer? c = some (a, m') else m'.payloads = m.payloads

/-- Announcements are stored as pending, and are marked as done together with a time. -/
def MayStore : Call → Prop
  | .createPayload p => p.status = .pending ∧ p.processed = none
  | .markPayload _ status processed => status = .done ∧ processed.isSome = true
  | _ => True

variable {m m' : Memory} {c : Call} {a : c.Answer} {p q : SyncPayload} {i : InstanceId}

theorem call_of_processed? (h : p ∈ Exchange.processed? ⟨c, a⟩) : c = .processPayload p := by
  unfold Exchange.processed? at h
  split at h
  · next eq =>
    cases eq
    cases h
    rfl
  · cases h

theorem call_of_announced? (h : p ∈ Exchange.announced? ⟨c, a⟩) : c = .createPayload p := by
  unfold Exchange.announced? at h
  split at h
  · next eq =>
    cases eq
    cases h
    rfl
  · cases h

theorem answer?_of_payloadService (h : payloadService m c a m') (hc : c.ofPayloads = true) :
    m.answer? c = some (a, m') := by
  simpa only [payloadService, hc, if_true] using h

theorem payloads_of_payloadService (h : payloadService m c a m') (hc : c.ofPayloads = false) :
    m'.payloads = m.payloads := by
  simpa only [payloadService, hc, Bool.false_eq_true, if_false] using h

/-- A memory is such a service. -/
theorem payloadService_of_answer? (h : m.answer? c = some (a, m')) : payloadService m c a m' := by
  unfold payloadService
  split
  · exact h
  · next other =>
    cases c with
    | createMessage | updateMessage | updateInstance | enqueue | finishCycle =>
      simp only [Memory.answer?, Memory.written] at h
      split at h <;> cases h <;> rfl
    | _ => first | (cases h <;> rfl) | exact absurd rfl other

/-- **What a call does to the announcements**: a new one comes after all others, one is marked as
done, or some are forgotten. -/
theorem rows_of_payloadService (h : payloadService m c a m') (may : MayStore c) :
    m'.payloads.rows = m.payloads.rows ++ (Exchange.announced? ⟨c, a⟩).toList ∨
      (∃ id time, m'.payloads.rows = marked id time m.payloads.rows) ∨
      ∃ keep, m'.payloads.rows = m.payloads.rows.filter keep := by
  cases c with
  | createPayload p =>
    have h := answer?_of_payloadService h rfl
    simp only [Memory.answer?, PayloadStore.create] at h
    split at h
    · cases h
      exact .inl (List.append_nil _).symm
    · next free =>
      cases h
      exact .inl (Table.rows_insert (Bool.not_eq_true _ ▸ free))
  | markPayload id status processed =>
    obtain ⟨rfl, timed⟩ := may
    obtain ⟨time, rfl⟩ := Option.isSome_iff_exists.1 timed
    have h := answer?_of_payloadService h rfl
    simp only [Memory.answer?] at h
    cases mark : m.payloads.mark id .done (some time) with
    | ok s =>
      rw [mark] at h
      cases h
      exact .inr (.inl ⟨id, time, PayloadStore.rows_mark mark⟩)
    | error e =>
      rw [mark] at h
      cases h
      exact .inl (List.append_nil _).symm
  | purgePayloads i =>
    cases answer?_of_payloadService h rfl
    exact .inr (.inr ⟨_, rfl⟩)
  | pendingPayloads i k =>
    cases answer?_of_payloadService h rfl
    exact .inl (List.append_nil _).symm
  | _ => exact .inl (by rw [payloads_of_payloadService h rfl]; exact (List.append_nil _).symm)

/-! ## The balance of announcements and acceptances -/

/-- The announcements that were stored, by the log, last one first. -/
def arrived (log : List Entry) : List SyncPayload :=
  log.filterMap fun e => e.exchange.announced?

/-- The announcements that the processor accepted, by the log, last one first. -/
def accepted (log : List Entry) : List SyncPayload :=
  log.filterMap fun e => e.exchange.processed?

/-- How many of the announcements have this owner and this name. -/
def countOf (k : InstanceId × PayloadId) (ps : List SyncPayload) : Nat :=
  (ps.map SyncPayload.key).count k

/-- How often something came under a name. The announcements `old` were there at first. -/
def arrivals (old : List SyncPayload) (s : Scene) (k : InstanceId × PayloadId) : Nat :=
  countOf k (arrived s.log ++ old)

/-- How often something was accepted under a name. -/
def acceptances (s : Scene) (k : InstanceId × PayloadId) : Nat :=
  countOf k (accepted s.log)

/-- How many announcements of a name are pending. -/
def waiting (s : Scene) (k : InstanceId × PayloadId) : Nat :=
  countOf k (s.memory.payloads.rows.filter SyncPayload.isPending)

variable {s t u : Scene} {party worker : Party} {k : InstanceId × PayloadId}
  {old ps qs : List SyncPayload} {x : PayloadId}

theorem countOf_append (k : InstanceId × PayloadId) (ps qs : List SyncPayload) :
    countOf k (ps ++ qs) = countOf k ps + countOf k qs := by
  rw [countOf, List.map_append, List.count_append]
  rfl

theorem countOf_le_of_sublist (h : ps.Sublist qs) : countOf k ps ≤ countOf k qs :=
  (h.map _).count_le k

theorem countOf_toList_eq_zero {o : Option SyncPayload} (h : ∀ p ∈ o, p.key ≠ k) :
    countOf k o.toList = 0 := by
  cases o with
  | none => rfl
  | some p => exact List.count_eq_zero.2 fun hk => h p rfl (List.mem_singleton.1 hk).symm

theorem countOf_singleton (p : SyncPayload) (k : InstanceId × PayloadId) :
    countOf k [p] = if p.key = k then 1 else 0 := by
  simp [countOf, List.count_singleton]

theorem filterMap_cons_eq_append {α β : Type} (f : α → Option β) (b : α) (l : List α) :
    (b :: l).filterMap f = (f b).toList ++ l.filterMap f := by
  cases h : f b <;> simp [h]

theorem arrivals_next (s : Scene) (party : Party) (c : Call) (a : c.Answer) (m : Memory) :
    arrivals old (s.next party c a m) k =
      countOf k (Exchange.announced? ⟨c, a⟩).toList + arrivals old s k := by
  rw [arrivals, arrivals, ← countOf_append, ← List.append_assoc]
  exact congrArg (fun ps => countOf k (ps ++ old)) (filterMap_cons_eq_append _ _ _)

theorem acceptances_next (s : Scene) (party : Party) (c : Call) (a : c.Answer) (m : Memory) :
    acceptances (s.next party c a m) k =
      countOf k (Exchange.processed? ⟨c, a⟩).toList + acceptances s k := by
  rw [acceptances, acceptances, ← countOf_append]
  exact congrArg (countOf k) (filterMap_cons_eq_append _ _ _)

/-- What is marked as done waits no longer, and nothing else waits that did not. -/
theorem filter_marked (id : PayloadId) (time : Timestamp) (rows : List SyncPayload) :
    (marked id time rows).filter SyncPayload.isPending =
      (rows.filter SyncPayload.isPending).filter fun p => p.id ≠ id := by
  induction rows with
  | nil => rfl
  | cons p rows ih =>
    rw [marked, List.map_cons, ← marked, List.filter_cons, List.filter_cons, ih]
    by_cases same : p.id = id
    · cases h : p.isPending <;> simp [same, SyncPayload.isPending]
    · cases h : p.isPending <;> simp [same, h]

/-- **A call by which something comes to wait** brings it. -/
theorem waiting_le (served : payloadService s.memory c a m') (may : MayStore c)
    (party : Party) (k : InstanceId × PayloadId) : waiting (s.next party c a m') k ≤
      countOf k (Exchange.announced? ⟨c, a⟩).toList + waiting s k := by
  have memory : (s.next party c a m').memory = m' := rfl
  rw [waiting, waiting, memory, Nat.add_comm, ← countOf_append]
  refine countOf_le_of_sublist ?_
  obtain rows | ⟨id, time, rows⟩ | ⟨keep, rows⟩ := rows_of_payloadService served may
  · rw [rows, List.filter_append]
    exact List.filter_sublist.append_left _
  · rw [rows, filter_marked]
    exact List.filter_sublist.trans (List.sublist_append_left _ _)
  · rw [rows]
    exact (List.filter_sublist.filter _).trans (List.sublist_append_left _ _)

/-- What the others do to the announcements of `i`: they accept none, and what they bring to wait is
new. -/
structure Undisturbed (old : List SyncPayload) (i : InstanceId) (s t : Scene) : Prop where
  kept : ∀ x, acceptances t (i, x) = acceptances s (i, x)
  grown : ∀ x, arrivals old s (i, x) ≤ arrivals old t (i, x)
  brought : ∀ x, waiting t (i, x) + arrivals old s (i, x) ≤
    waiting s (i, x) + arrivals old t (i, x)

theorem Undisturbed.refl (s : Scene) : Undisturbed old i s s :=
  ⟨fun _ => rfl, fun _ => le_rfl, fun _ => le_rfl⟩

theorem Undisturbed.trans (h : Undisturbed old i s t) (h' : Undisturbed old i t u) :
    Undisturbed old i s u where
  kept x := (h'.kept x).trans (h.kept x)
  grown x := (h.grown x).trans (h'.grown x)
  brought x := by
    have first := h.brought x
    have second := h'.brought x
    omega

/-- **A call that accepts nothing of `i`** does not disturb the balance. -/
theorem undisturbed_next (served : payloadService s.memory c a m') (may : MayStore c)
    (other : ∀ p ∈ Exchange.processed? ⟨c, a⟩, p.owner ≠ i) (party : Party) :
    Undisturbed old i s (s.next party c a m') where
  kept x := by
    have none : ∀ p ∈ Exchange.processed? ⟨c, a⟩, p.key ≠ (i, x) := fun p hp same =>
      other p hp (congrArg Prod.fst same)
    rw [acceptances_next, countOf_toList_eq_zero none, Nat.zero_add]
  grown x := by
    rw [arrivals_next]
    exact Nat.le_add_left _ _
  brought x := by
    have more := waiting_le served may party (i, x)
    rw [arrivals_next]
    omega

/-- Such a call, and what the others do after it. -/
theorem Undisturbed.after (later : Undisturbed old i (s.next party c a m') t)
    (served : payloadService s.memory c a m') (may : MayStore c)
    (other : ∀ p ∈ Exchange.processed? ⟨c, a⟩, p.owner ≠ i) : Undisturbed old i s t :=
  (undisturbed_next served may other party).trans later

/-! ## The balance along a processing -/

/-- Outside of a processing, whatever was accepted or waits has come under its name. -/
def Ready (old : List SyncPayload) (i : InstanceId) (s : Scene) : Prop :=
  ∀ x, acceptances s (i, x) + waiting s (i, x) ≤ arrivals old s (i, x)

/-- The announcements `ps` of `i` are to be processed: each of them may be accepted once more. -/
structure Due (old : List SyncPayload) (i : InstanceId) (ps : List SyncPayload) (s : Scene) :
    Prop where
  own : ∀ p ∈ ps, p.owner = i
  distinct : (ps.map SyncPayload.id).Nodup
  more : ∀ p ∈ ps, acceptances s (i, p.id) < arrivals old s (i, p.id)

/-- The announcement `p` was accepted and is about to be marked, and `ps` come next. -/
structure Marking (old : List SyncPayload) (i : InstanceId) (p : SyncPayload)
    (ps : List SyncPayload) (s : Scene) : Prop where
  due : Due old i ps s
  others : ∀ x, x ≠ p.id → acceptances s (i, x) + waiting s (i, x) ≤ arrivals old s (i, x)
  paid : acceptances s (i, p.id) ≤ arrivals old s (i, p.id)

theorem Ready.of_undisturbed (h : Ready old i s) (others : Undisturbed old i s t) :
    Ready old i t := by
  intro x
  have := h x
  have := others.kept x
  have := others.brought x
  omega

theorem Due.of_undisturbed (h : Due old i ps s) (others : Undisturbed old i s t) :
    Due old i ps t where
  own := h.own
  distinct := h.distinct
  more p hp := by
    rw [others.kept]
    exact (h.more p hp).trans_le (others.grown _)

theorem Marking.of_undisturbed (h : Marking old i p ps s) (others : Undisturbed old i s t) :
    Marking old i p ps t where
  due := h.due.of_undisturbed others
  others x hx := by
    have := h.others x hx
    have := others.kept x
    have := others.brought x
    omega
  paid := by
    rw [others.kept]
    exact h.paid.trans (others.grown _)

theorem Due.tail (h : Due old i (p :: ps) s) : Due old i ps s where
  own := (List.forall_mem_cons.1 h.own).2
  distinct := (List.nodup_cons.1 h.distinct).2
  more := (List.forall_mem_cons.1 h.more).2

/-- What is pending may be accepted. -/
theorem Ready.due (h : Ready old i s) (k : Option CycleId) :
    Due old i (s.memory.payloads.pending i k) s where
  own p hp := (mem_pending.1 hp).2.1
  distinct := (List.filter_sublist.map _).nodup s.memory.payloads.distinct
  more p hp := by
    obtain ⟨stored, rfl, pending, -⟩ := mem_pending.1 hp
    have waits : 0 < waiting s (p.owner, p.id) := by
      have there : p ∈ s.memory.payloads.rows.filter SyncPayload.isPending :=
        List.mem_filter.2 ⟨stored, beq_iff_eq.2 pending⟩
      exact List.count_pos_iff.2 (List.mem_map_of_mem there)
    have := h p.id
    omega

/-- **An announcement that is due is accepted.** -/
theorem Due.accept (due : Due old i (p :: ps) s) (ready : Ready old i s)
    (served : payloadService s.memory c a m') (ok : Exchange.processed? ⟨c, a⟩ = some p)
    (party : Party) : Marking old i p ps (s.next party c a m') := by
  obtain rfl : c = .processPayload p := call_of_processed? ok
  have key : p.key = (i, p.id) := Prod.ext (due.own p List.mem_cons_self) rfl
  have new := (List.nodup_cons.1 due.distinct).1
  have acceptance (x : PayloadId) : acceptances (s.next party (.processPayload p) a m') (i, x) =
      (if p.id = x then 1 else 0) + acceptances s (i, x) := by
    rw [acceptances_next, ok, Option.toList_some, countOf_singleton, key]
    simp
  have arrival (x : PayloadId) : arrivals old (s.next party (.processPayload p) a m') (i, x) =
      arrivals old s (i, x) := by
    rw [arrivals_next]
    exact Nat.zero_add _
  refine ⟨⟨due.tail.own, due.tail.distinct, fun q hq => ?_⟩, fun x hx => ?_, ?_⟩
  · have other : p.id ≠ q.id := fun same => new (same ▸ List.mem_map_of_mem hq)
    rw [acceptance, arrival, if_neg other, Nat.zero_add]
    exact due.tail.more q hq
  · have waits : waiting (s.next party (.processPayload p) a m') (i, x) ≤ 0 + waiting s (i, x) :=
      waiting_le served trivial party (i, x)
    have balance := ready x
    rw [acceptance, arrival, if_neg (Ne.symm hx)]
    omega
  · have more := due.more p List.mem_cons_self
    rw [acceptance, arrival, if_pos rfl]
    omega

/-- What was marked as done waits no longer, and neither does what is not there. -/
theorem waiting_mark {time : Timestamp} {b : (Call.markPayload x .done (some time)).Answer}
    (served : payloadService s.memory (.markPayload x .done (some time)) b m') (party : Party)
    (i : InstanceId) :
    waiting (s.next party (.markPayload x .done (some time)) b m') (i, x) = 0 := by
  have answered := answer?_of_payloadService served rfl
  refine List.count_eq_zero.2 fun there => ?_
  obtain ⟨q, hq, key⟩ := List.mem_map.1 there
  obtain rfl : q.id = x := congrArg Prod.snd key
  change q ∈ m'.payloads.rows.filter SyncPayload.isPending at hq
  simp only [Memory.answer?] at answered
  cases mark : s.memory.payloads.mark q.id .done (some time) with
  | ok store =>
    rw [mark] at answered
    cases answered
    have rows : store.rows = marked q.id time s.memory.payloads.rows :=
      PayloadStore.rows_mark mark
    rw [show _ = marked _ _ _ from rows, filter_marked] at hq
    exact of_decide_eq_true (List.mem_filter.1 hq).2 rfl
  | error e =>
    rw [mark] at answered
    cases answered
    obtain ⟨store, taken⟩ :=
      PayloadStore.exists_mark_eq_ok (List.mem_filter.1 hq).1 .done (some time)
    rw [mark] at taken
    cases taken

/-- **An announcement that was accepted is marked.** -/
theorem Marking.mark {time : Timestamp} {b : (Call.markPayload p.id .done (some time)).Answer}
    (h : Marking old i p ps s)
    (served : payloadService s.memory (.markPayload p.id .done (some time)) b m') (party : Party) :
    let t := s.next party (.markPayload p.id .done (some time)) b m'
    Ready old i t ∧ Due old i ps t := by
  intro t
  have others : Undisturbed old i s t :=
    undisturbed_next served ⟨rfl, rfl⟩ (by simp [Exchange.processed?]) party
  have after := h.of_undisturbed others
  refine ⟨fun x => ?_, after.due⟩
  by_cases hx : x = p.id
  · subst hx
    rw [waiting_mark served party i, Nat.add_zero]
    exact after.paid
  · exact after.others x hx

end HistorySync

end MessageGateway
