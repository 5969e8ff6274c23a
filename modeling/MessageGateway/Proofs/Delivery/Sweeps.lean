import MessageGateway.Proofs.Delivery.Guarantees
import MessageGateway.Proofs.Delivery.Listing
import MessageGateway.Proofs.Traces

/-!
# Which records sweeps reach

A sweep asks for so many unfinished records as its batch allows, and puts their events into the
queue. It keeps nothing in mind: the next sweep begins at the front of the list again. So a record
is reached as soon as few enough unfinished records are listed before it, and as long as no
delivery comes to an end, all sweeps reach the same records.

## Main definitions

* `Delivery.queueing`: message store and queue answer their calls, and the queue is not closed
* `Delivery.offer`, `Delivery.sweepTrace`: the calls of a sweep that found some records
* `Delivery.Steady`: the same messages have waited all the time
* `Delivery.Requeued`: a sweep has put the event of a message into the queue

## Main results

* `Delivery.Run.swept`: what a sweep has done when it returns
* `Delivery.sweeps_reach_oldest`: which records are reached by any number of sweeps
-/

namespace MessageGateway

open Program Setting

/-- What a service allows, a more liberal one allows. -/
theorem System.Run.mono {ρ : Type} {S T : Service} {s t : System ρ}
    (h : ∀ {m c a m'}, S m c a m' → T m c a m') (run : Run S s t) : Run T s t := by
  induction run with
  | refl => exact .refl
  | tail _ step ih =>
    cases step with
    | call left served => exact ih.tail (.call left (h served))

namespace Delivery

variable {c : GatewayConfig} {ops : Party → Operation} {m m' : Memory} {σ τ : System Outcome}
  {x : MessageId} {p : Party} {batch : Nat} {rs : List Message}

/-! ## The queue -/

/-- Message store and queue answer their calls. Anything may come of any other call, and events may
leave the queue meanwhile or come into it, but it is not closed. -/
def queueing : Service := fun m c a m' =>
  service m c a m' ∧ m'.queue.isClosed = m.queue.isClosed ∧
    ∀ e, c = .enqueue e → m.answer? c = some (a, m')

/-- What an open queue is offered, it takes. -/
theorem queueing_enqueue {e : QueueEvent} {a : (Call.enqueue e).Answer}
    (opened : m.queue.isClosed = false) (h : queueing m (.enqueue e) a m') : a = .ok () := by
  have taken : m.queue.enqueue e = .ok { m.queue with events := m.queue.events ++ [e] } := by
    rw [DeliveryQueue.enqueue, if_neg (by simp [opened])]
  have answered := h.2.2 e rfl
  rw [Memory.answer?, taken] at answered
  cases answered
  rfl

theorem Run.service (run : System.Run queueing σ τ) : System.Run service σ τ :=
  run.mono And.left

/-- Nobody closes the queue. -/
theorem Run.opened (run : System.Run queueing σ τ) (opened : σ.memory.queue.isClosed = false) :
    τ.memory.queue.isClosed = false := by
  induction run with
  | refl => exact opened
  | tail _ step ih =>
    cases step with
    | call left served => exact served.2.1.trans ih

/-! ## The calls of a sweep -/

/-- The event of a record was put into the queue. -/
def offer (r : Message) : Exchange :=
  ⟨.enqueue (.ofMessage r), .ok ()⟩

/-- The calls of a sweep that has found the records `rs`, last one first. -/
def sweepTrace (batch : Nat) (rs : List Message) : Trace :=
  (rs.map offer).reverse ++ [⟨.pendingMessages batch, .ok rs⟩]

/-- Queries are answered, and the queue takes what it is offered. -/
def Granted : Exchange → Prop
  | ⟨.enqueue _, a⟩ => a = .ok ()
  | ⟨.pendingMessages _, a⟩ => ∃ rs, a = .ok rs
  | _ => True

/-- A sweep offers events of records that it has found. -/
def MayOffer (batch : Nat) : Call → Trace → Prop
  | .enqueue e, t => ∃ rs, ⟨.pendingMessages batch, .ok rs⟩ ∈ t ∧ ∃ r ∈ rs, e = .ofMessage r
  | _, _ => True

theorem ensures_offers {t : Trace} (rs : List Message)
    (found : ∃ rs', ⟨.pendingMessages batch, .ok rs'⟩ ∈ t ∧ ∀ r ∈ rs, r ∈ rs') :
    (traced Granted (MayOffer batch)).Ensures
      (fun n u => n = rs.length ∧ u = (rs.map offer).reverse ++ t) (enqueueAll rs) t := by
  induction rs generalizing t with
  | nil => exact ensures_done ⟨rfl, rfl⟩
  | cons r rs ih =>
    obtain ⟨rs', query, members⟩ := found
    have may : MayOffer batch (.enqueue (.ofMessage r)) t :=
      ⟨rs', query, r, members r List.mem_cons_self, rfl⟩
    refine (ensures_asked may).bind fun a u _ hQ => ?_
    obtain ⟨rfl, granted⟩ := hQ u rfl
    obtain rfl : a = .ok () := granted
    have others : ∃ rs', ⟨.pendingMessages batch, .ok rs'⟩ ∈ offer r :: t ∧ ∀ r ∈ rs, r ∈ rs' :=
      ⟨rs', List.mem_cons_of_mem _ query, fun r' hr => members r' (List.mem_cons_of_mem _ hr)⟩
    refine (ih others).map fun n u _ hQ => ?_
    obtain ⟨rfl, rfl⟩ := hQ
    exact ⟨rfl, by simp [offer]⟩

/-- **A sweep offers the events of all records that it has found**, each of them once. -/
theorem ensures_sweep (batch : Nat) : (traced Granted (MayOffer batch)).Ensures
    (fun res t => ∃ rs, res = .ok rs.length ∧ t = sweepTrace batch rs) (sweepOnce batch) [] := by
  have find : (traced Granted (MayOffer batch)).Ensures _ (pendingMessages batch) [] :=
    ensures_asked trivial
  refine find.bind fun a t _ hQ => ?_
  obtain ⟨rfl, granted⟩ := hQ t rfl
  obtain ⟨rs, rfl⟩ := granted
  refine (ensures_offers rs ⟨rs, List.mem_singleton_self _, fun _ hr => hr⟩).map fun n u _ hQ => ?_
  obtain ⟨rfl, rfl⟩ := hQ
  exact ⟨rs, rfl, rfl⟩

theorem ensures_operation_sweep (c : GatewayConfig) (batch : Nat) :
    (traced Granted (MayOffer batch)).Ensures
      (fun o t => ∃ rs, o = .swept (.ok rs.length) ∧ t = sweepTrace batch rs)
      ((Operation.sweep batch).program c) [] := by
  refine (ensures_sweep batch).map fun res t _ hQ => ?_
  obtain ⟨rs, rfl, eq⟩ := hQ
  exact ⟨rs, rfl, eq⟩

/-! ## Sweeps among other operations -/

theorem Run.granted (run : System.Run queueing (begin c ops m) σ)
    (opened : m.queue.isClosed = false) : ∀ e ∈ System.trace p σ.log, Granted e := by
  intro e he
  obtain ⟨u, m', before, -, served⟩ := run.exists_answered he
  have opened := Run.opened before opened
  unfold Granted
  split
  · exact queueing_enqueue opened served
  · have answered := answer?_of_service served.1 rfl
    cases answered
    exact ⟨_, rfl⟩
  · trivial

/-- What a query of a sweep has found are the first unfinished records of some moment. -/
theorem Run.exists_pending (run : System.Run queueing (begin c ops m) σ)
    (query : ⟨.pendingMessages batch, .ok rs⟩ ∈ System.trace p σ.log) :
    ∃ υ, System.Run queueing (begin c ops m) υ ∧ System.Run queueing υ σ ∧
      rs = (store υ.toScene).pending batch := by
  obtain ⟨υ, m', before, after, served⟩ := run.exists_answered query
  have answered := answer?_of_service served.1 rfl
  cases answered
  exact ⟨υ, before, after, rfl⟩

/-- **What a sweep has done when it returns**: it has found the first unfinished records of some
moment, and put the events of all of them into the queue, in their order. -/
theorem Run.swept (run : System.Run queueing (begin c ops m) σ)
    (opened : m.queue.isClosed = false) (sweep : ops p = .sweep batch) {o : Outcome}
    (done : σ.parties p = .done o) :
    ∃ υ, System.Run queueing (begin c ops m) υ ∧ System.Run queueing υ σ ∧
      o = .swept (.ok ((store υ.toScene).pending batch).length) ∧
      System.trace p σ.log = sweepTrace batch ((store υ.toScene).pending batch) := by
  have made := run.made p
  rw [sweep, done] at made
  obtain ⟨rs, rfl, trace⟩ := made.result (ensures_operation_sweep c batch) (Run.granted run opened)
  have query : ⟨.pendingMessages batch, .ok rs⟩ ∈ System.trace p σ.log := by
    rw [trace]
    exact List.mem_append_right _ (List.mem_singleton_self _)
  obtain ⟨υ, before, after, rfl⟩ := Run.exists_pending run query
  exact ⟨υ, before, after, rfl, trace⟩

/-- A sweep has put the event of the message `x` into the queue. -/
def Requeued (ops : Party → Operation) (x : MessageId) (log : List Entry) : Prop :=
  ∃ e ∈ log, ∃ batch, ops e.party = .sweep batch ∧ ∃ r, e.exchange = offer r ∧ r.id = x

/-- Even a sweep that has not returned offers only what a query has found. -/
theorem Run.exists_of_requeued (run : System.Run queueing (begin c ops m) σ)
    (opened : m.queue.isClosed = false) (requeued : Requeued ops x σ.log) :
    ∃ υ batch p, ops p = .sweep batch ∧ System.Run queueing (begin c ops m) υ ∧
      System.Run queueing υ σ ∧ x ∈ ((store υ.toScene).pending batch).map Message.id := by
  obtain ⟨e, he, batch, sweep, r, offered, rfl⟩ := requeued
  obtain ⟨later, before, eq⟩ := List.append_of_mem he
  have made := run.made e.party
  rw [sweep] at made
  have lawful := made.lawful (ensures_operation_sweep c batch) (Run.granted run opened)
  have may := System.may_of_lawful lawful ⟨later, eq.symm⟩
  obtain ⟨q, call, a⟩ := e
  cases offered
  obtain ⟨rs, query, r', hr, same⟩ := may
  have query := (System.trace_suffix ((List.suffix_cons _ _).trans ⟨later, eq.symm⟩)).subset query
  obtain ⟨υ, run', after, rfl⟩ := Run.exists_pending run query
  have id : r.id = r'.id := congrArg QueueEvent.id same
  exact ⟨υ, batch, q, sweep, run', after, id ▸ List.mem_map_of_mem hr⟩

/-- A sweep that has returned has offered all that its query has found. -/
theorem requeued_of_sweepTrace (sweep : ops p = .sweep batch)
    (trace : System.trace p σ.log = sweepTrace batch rs) (hx : x ∈ rs.map Message.id) :
    Requeued ops x σ.log := by
  obtain ⟨r, hr, rfl⟩ := List.mem_map.1 hx
  have offered : offer r ∈ System.trace p σ.log := by
    rw [trace]
    exact List.mem_append_left _ (List.mem_reverse.2 (List.mem_map_of_mem hr))
  obtain ⟨e, he, rfl, eq⟩ := System.mem_trace.1 offered
  exact ⟨e, he, batch, sweep, r, eq.symm, rfl⟩

/-! ## While the same messages wait -/

/-- So far the same messages have waited all the time: no delivery has come to an end, and no record
of an unfinished one has come in. -/
def Steady (c : GatewayConfig) (ops : Party → Operation) (m : Memory) (σ : System Outcome) : Prop :=
  ∀ υ, System.Run queueing (begin c ops m) υ → System.Run queueing υ σ →
    ∀ x, (store υ.toScene).Waits x ↔ m.messages.Waits x

/-- As long as the same messages wait, all queries find the same ones. -/
theorem Steady.map_id_pending (steady : Steady c ops m σ)
    (before : System.Run queueing (begin c ops m) τ) (after : System.Run queueing τ σ)
    (batch : Nat) :
    ((store τ.toScene).pending batch).map Message.id =
      (m.messages.pending batch).map Message.id := by
  rw [MessageStore.pending_eq, MessageStore.pending_eq, List.map_take, List.map_take]
  rw [MessageStore.map_id_listing_eq (steady τ before after) fun x a b foundA foundB => ?_]
  obtain ⟨b', found, continues⟩ := Run.continues .refl (Run.service before) foundA
  rw [foundB] at found
  cases found
  exact continues.created

/-- **Which records sweeps reach.** A sweep that has returned has found the first unfinished records
of some moment, as many as its batch allows, and has put the events of just these into the queue, in
their order. As long as the same messages wait, sweeps of one batch take the same records all the
time: once one of them has returned, a record has been reached if and only if it is unfinished and
its place in the list is within the batch. So all unfinished records have been reached if and only
if a single sweep has room for them, however many sweeps there were. -/
theorem sweeps_reach_oldest (run : System.Run queueing (begin c ops m) σ)
    (opened : m.queue.isClosed = false) :
    (∀ p batch o, ops p = .sweep batch → σ.parties p = .done o →
      ∃ υ, System.Run queueing (begin c ops m) υ ∧ System.Run queueing υ σ ∧
        o = .swept (.ok (min batch (store υ.toScene).unfinished.length)) ∧
        System.trace p σ.log = sweepTrace batch ((store υ.toScene).pending batch)) ∧
    ∀ batch, (∀ p b, ops p = .sweep b → b = batch) → Steady c ops m σ →
      (∃ p o, ops p = .sweep batch ∧ σ.parties p = .done o) →
      (∀ x, Requeued ops x σ.log ↔ ∃ r, m.messages.find? x = some r ∧
        r.status.isTerminal = false ∧ m.messages.place r ≤ batch) ∧
      ((∀ r ∈ m.messages.unfinished, Requeued ops r.id σ.log) ↔
        m.messages.unfinished.length ≤ batch) := by
  constructor
  · intro p batch o sweep done
    obtain ⟨υ, before, after, rfl, trace⟩ := Run.swept run opened sweep done
    rw [MessageStore.length_pending]
    exact ⟨υ, before, after, rfl, trace⟩
  · intro batch alike steady returned
    obtain ⟨p, o, sweep, done⟩ := returned
    obtain ⟨υ, before, after, -, trace⟩ := Run.swept run opened sweep done
    have reached (x : MessageId) :
        Requeued ops x σ.log ↔ x ∈ (m.messages.pending batch).map Message.id := by
      constructor
      · intro requeued
        obtain ⟨υ', b, q, sweep', before', after', found⟩ :=
          Run.exists_of_requeued run opened requeued
        rwa [alike q b sweep', steady.map_id_pending before' after'] at found
      · rw [← steady.map_id_pending before after]
        exact requeued_of_sweepTrace sweep trace
    refine ⟨fun x => by rw [reached, MessageStore.mem_map_id_pending], ?_⟩
    rw [← MessageStore.forall_mem_pending_iff]
    exact forall₂_congr fun r _ => reached r.id

/-! ## Sample runs -/

/-- Sweeps leave the message store alone. -/
theorem steady_of_sweeps (sweeps : ∀ p, ∃ batch, ops p = .sweep batch) : Steady c ops m σ := by
  intro υ before _ x
  have unwritten : ∀ e ∈ υ.log, e.written? = none := by
    intro e he
    obtain ⟨batch, sweep⟩ := sweeps e.party
    have only : ((ops e.party).program c).Only fun c => c.isDeed = false := by
      rw [sweep]
      exact Only.map (sweepOnce_only batch rfl fun _ => rfl)
    refine Entry.written?_of_not_isDeed ((before.made e.party).only only e.exchange ?_)
    exact System.mem_trace.2 ⟨e, he, rfl, rfl⟩
  have kept : ∀ log : List Entry, (∀ e ∈ log, e.written? = none) →
      row m.messages x log = m.messages.find? x := by
    intro log none
    induction log with
    | nil => rfl
    | cons e log ih =>
      rw [row_cons_of_none (none e List.mem_cons_self)]
      exact ih fun e' he => none e' (List.mem_cons_of_mem _ he)
  rw [MessageStore.Waits, (Run.sound (Run.service before)).stored, kept _ unwritten]
  rfl

namespace Sample

/-- Two texts that wait, the older one first. -/
def backlog : Memory where
  messages := List.foldl Table.insert Table.empty
    [{ record with id := ⟨7⟩ }, { record with created := ⟨1, 0⟩ }]

/-- What the memory answers, it answers as the message store and an open queue do. -/
theorem queueing_of_answer? (c : Call) (m : Memory) (a : c.Answer) (m' : Memory)
    (h : m.answer? c = some (a, m')) : queueing m c a m' := by
  refine ⟨Delivery.service_of_answer? h, ?_, fun _ _ => h⟩
  cases c with
  | enqueue e =>
    simp only [Memory.answer?, DeliveryQueue.enqueue] at h
    split at h
    · next taken =>
      split at taken <;> cases taken
      cases h
      rfl
    · cases h
      rfl
  | passQueue | popQueue =>
    cases h
    simp only [DeliveryQueue.pass, DeliveryQueue.pop]
    cases m.queue.events <;> rfl
  | createMessage | updateMessage | updateInstance | createPayload | markPayload | finishCycle =>
    simp only [Memory.answer?, Memory.written] at h
    split at h <;> cases h <;> rfl
  | _ => first | (cases h; rfl) | cases h

/-- The texts stand in their order. -/
theorem pending_backlog (batch : Nat) :
    backlog.messages.pending batch = backlog.messages.rows.take batch := by
  have sorted : backlog.messages.unfinished.mergeSort Message.listedBefore =
      backlog.messages.unfinished :=
    List.mergeSort_of_pairwise (by decide)
  rw [MessageStore.pending_eq, MessageStore.listing, sorted]
  rfl

/-- All parties sweep with room for one record. -/
def sweepers : System Outcome :=
  begin {} (fun _ => .sweep 1) backlog

theorem query_backlog : Memory.answer? (.pendingMessages 1) backlog =
    some (.ok (backlog.messages.rows.take 1), backlog) := by
  rw [← pending_backlog]
  rfl

/-- One of them has found the older text. -/
def searched : System Outcome :=
  sweepers.next 0 (.pendingMessages 1) (.ok (backlog.messages.rows.take 1)) backlog
    (.swept <$> do return .ok (← enqueueAll (backlog.messages.rows.take 1)))

/-- It has returned. -/
def swept : System Outcome :=
  System.play Memory.answer? [0] searched

end Sample

/-- Of the two texts of the sample only the older one has been reached. -/
theorem sweeps_reach_oldest_sample :
    Requeued (fun _ => .sweep 1) ⟨7⟩ Sample.swept.log ∧
      ¬Requeued (fun _ => .sweep 1) ⟨5⟩ Sample.swept.log := by
  have search : System.Step queueing Sample.sweepers Sample.searched :=
    System.Step.call (s := Sample.sweepers) (p := 0) rfl
      (Sample.queueing_of_answer? _ _ _ _ Sample.query_backlog)
  have run : System.Run queueing Sample.sweepers Sample.swept :=
    .head search (System.run_play Sample.queueing_of_answer? _ _)
  have alike : ∀ (p : Party) (b : Nat), Operation.sweep 1 = .sweep b → b = 1 := by
    rintro _ _ ⟨⟩
    rfl
  have returned : Sample.swept.parties 0 = .done (.swept (.ok 1)) := rfl
  have reached := ((sweeps_reach_oldest run rfl).2 1 alike
    (steady_of_sweeps fun _ => ⟨1, rfl⟩) ⟨0, _, rfl, returned⟩).1
  rw [reached, reached]
  refine ⟨⟨{ Sample.record with id := ⟨7⟩ }, rfl, rfl, by decide⟩, ?_⟩
  rintro ⟨r, found, -, within⟩
  cases found
  revert within
  decide

/-! ## Sweeps one after the other -/

section InTurn

variable {ω : Type} {outside : (c : Call) → ω → c.Answer × ω} {s : Solo ω}

theorem memory_after_sweep (outside : (c : Call) → ω → c.Answer × ω) (c : GatewayConfig)
    (batch : Nat) (opened : s.memory.queue.isClosed = false) :
    ((Operation.sweep batch).after outside c s).memory = { s.memory with queue :=
      { s.memory.queue with events :=
        s.memory.queue.events ++ (s.memory.messages.pending batch).map .ofMessage } } := by
  obtain ⟨t, operated, memory, -⟩ := (Operation.sweep batch).exists_operated outside c s
  cases operated with
  | sweep swept => rw [memory, swept.rest, (swept.taken opened).2]

/-- Sweeps alone find the same records again and again. -/
theorem mem_events_inTurn_sweeps {e : QueueEvent} (opened : s.memory.queue.isClosed = false)
    (k : Nat)
    (he : e ∈ (inTurn outside c (List.replicate k (.sweep batch)) s).memory.queue.events) :
    e ∈ s.memory.queue.events ∨ e ∈ (s.memory.messages.pending batch).map .ofMessage := by
  induction k generalizing s with
  | zero => exact .inl he
  | succ k ih =>
    have memory := memory_after_sweep outside c batch opened
    have still : ((Operation.sweep batch).after outside c s).memory.queue.isClosed = false := by
      rw [memory]
      exact opened
    have found := ih still he
    rw [memory, List.mem_append, or_assoc, or_self] at found
    exact found

end InTurn

/-- As many sweeps as it takes to go through all records, one after the other on an open queue, may
leave out a record: the later one of the sample. -/
theorem later_record_unreached : ¬∀ (m : Memory) (batch : Nat), 0 < batch →
    m.queue.isClosed = false → ∀ r ∈ m.messages.unfinished,
      ∃ e ∈ (inTurn Sample.surroundings {}
        (List.replicate ((m.messages.unfinished.length + batch - 1) / batch) (.sweep batch))
        ⟨m, 0, []⟩).memory.queue.events, e.id = r.id := by
  intro reached
  obtain ⟨e, he, id⟩ := reached Sample.backlog 1 (by decide) rfl
    { Sample.record with created := ⟨1, 0⟩ } (by decide)
  rcases mem_events_inTurn_sweeps rfl _ he with waiting | found
  · cases waiting
  · rw [Sample.pending_backlog] at found
    obtain rfl := List.mem_singleton.1 found
    revert id
    decide

end Delivery

end MessageGateway
