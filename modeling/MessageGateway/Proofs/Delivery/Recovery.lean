import MessageGateway.Proofs.Delivery.Events
import MessageGateway.Proofs.Delivery.Succession

/-!
# Recovery

Whatever a crash has left in the message store, one sweep and the work on its events bring every
delivery to its end, as long as the instances are healthy. What can be sent is transmitted once, in
the order in which the records are listed, and everything else is given up.

## Main definitions

* `Delivery.isDeliverable`: the records that are transmitted
* `Delivery.Healthy`: every instance is active and has a session that is ready
* `Delivery.Completed`: what the work on one event comes to
* `Delivery.drain`: the events that wait are dealt with, one after the other

## Main results

* `Delivery.Processed.completed`: the work on the event of a record ends its delivery
* `Delivery.ensures_drain`: so does the work on many events, each for its record
* `Delivery.recovery_completes`: a sweep and the work on its events leave nothing pending
-/

namespace MessageGateway

open Program Setting

variable {ω : Type} {outside : (c : Call) → ω → c.Answer × ω} {s t : Solo ω}

/-! ## The order of records -/

namespace Message

/-- Records are listed by seconds, then nanoseconds, then identifiers. -/
theorem listedBefore_iff {a b : Message} : a.listedBefore b = true ↔
    a.created.seconds < b.created.seconds ∨ a.created.seconds = b.created.seconds ∧
      (a.created.nanos < b.created.nanos ∨ a.created.nanos = b.created.nanos ∧
        a.id.value.toNat ≤ b.id.value.toNat) := by
  have same : a.created = b.created ↔
      a.created.seconds = b.created.seconds ∧ a.created.nanos = b.created.nanos := by
    cases a.created
    cases b.created
    simp
  simp only [listedBefore, Timestamp.precedes, Id.precedes, Bool.or_eq_true, Bool.and_eq_true,
    decide_eq_true_eq, beq_iff_eq, Bool.not_eq_true', decide_eq_false_iff_not, same]
  omega

theorem listedBefore_trans (a b c : Message) (hab : a.listedBefore b = true)
    (hbc : b.listedBefore c = true) : a.listedBefore c = true := by
  rw [listedBefore_iff] at *
  omega

theorem listedBefore_total (a b : Message) :
    (a.listedBefore b || b.listedBefore a) = true := by
  rw [Bool.or_eq_true, listedBefore_iff, listedBefore_iff]
  omega

end Message

namespace MessageStore

/-- The records whose delivery is not over. -/
def unfinished (messages : MessageStore) : List Message :=
  messages.rows.filter fun r => !r.status.isTerminal

variable {messages : MessageStore} {batch : Nat}

theorem mem_unfinished {r : Message} : r ∈ messages.unfinished ↔
    messages.find? r.id = some r ∧ r.status.isTerminal = false := by
  rw [unfinished, List.mem_filter, Bool.not_eq_true']
  refine and_congr_left' ⟨Table.find?_of_mem, List.mem_of_find?_eq_some⟩

/-- A batch that is large enough is all of them, in their order. -/
theorem pending_perm (enough : messages.unfinished.length ≤ batch) :
    (messages.pending batch).Perm messages.unfinished := by
  rw [pending, List.take_of_length_le (by rwa [List.length_mergeSort])]
  exact List.mergeSort_perm _ _

theorem pairwise_pending (messages : MessageStore) (batch : Nat) :
    (messages.pending batch).Pairwise fun a b => a.listedBefore b = true :=
  (List.pairwise_mergeSort Message.listedBefore_trans Message.listedBefore_total _).sublist
    (List.take_sublist _ _)

end MessageStore

namespace Delivery

variable {c : GatewayConfig} {m : Memory} {r : Message} {instances : InstanceStore}

/-! ## What can be sent -/

/-- The record is transmitted when its event is dealt with: its delivery is not over, it is of a
text that is not empty, its instance is there, and its destination says whom it means. -/
def isDeliverable (c : GatewayConfig) (instances : InstanceStore) (r : Message) : Bool :=
  !r.status.isTerminal && r.kind == .text && !r.payload.isEmpty && !r.owner.isBlank &&
    instances.contains r.owner && (Destination.normalize c.resolver r.recipient).isOk

theorem isDeliverable_iff : isDeliverable c instances r = true ↔
    r.status.isTerminal = false ∧ r.kind = .text ∧ r.payload ≠ "" ∧ r.owner.isBlank = false ∧
      (∃ i, instances.find? r.owner = some i) ∧
      ∃ d, Destination.normalize c.resolver r.recipient = .ok d := by
  have resolves : (Destination.normalize c.resolver r.recipient).isOk = true ↔
      ∃ d, Destination.normalize c.resolver r.recipient = .ok d := by
    cases Destination.normalize c.resolver r.recipient <;> simp [Except.isOk, Except.toBool]
  simp [isDeliverable, resolves, Table.contains, Option.isSome_iff_exists, and_assoc]

/-- An empty destination says nothing. -/
theorem normalize_empty (c : ResolverConfig) : Destination.normalize c "" = .error .empty := rfl

/-! ## Healthy instances -/

/-- Every instance is active, and its session is obtained, logged in and ready at once. -/
structure Healthy (outside : (c : Call) → ω → c.Answer × ω) (instances : InstanceStore) : Prop where
  active : ∀ i r, instances.find? i = some r → r.isActive = true
  connected : ∀ i r w, instances.find? i = some r →
    ∃ session, (outside (.openSession i) w).1 = .ok session ∧ session.loggedIn = true
  ready : ∀ i r w, instances.find? i = some r → (outside (.sessionReady i) w).1 = true

/-- No instance that is there was refused a session or found not ready. -/
def Untroubled (instances : InstanceStore) (e : Exchange) : Prop :=
  ∀ i r, instances.find? i = some r →
    (∀ a, e = ⟨.openSession i, a⟩ → e.isRefusal = false) ∧ e ≠ ⟨.sessionReady i, false⟩

theorem Healthy.untroubled (healthy : Healthy outside instances) {c : Call} {a : c.Answer}
    (served : Solo.answer outside c s = (a, t)) : Untroubled instances ⟨c, a⟩ := by
  intro i r found
  constructor
  · rintro b ⟨⟩
    obtain ⟨session, opened, loggedIn⟩ := healthy.connected i r s.world found
    cases served
    show Exchange.isRefusal ⟨.openSession i, (outside (.openSession i) s.world).1⟩ = false
    rw [opened]
    simp [Exchange.isRefusal, loggedIn]
  · rintro ⟨⟩
    have ready := healthy.ready i r s.world found
    cases congrArg Prod.fst served ▸ ready

end Delivery

/-! ## One event -/

namespace Dispatch

open Delivery

variable {c : GatewayConfig} {m : Memory} {r r' : Message} {calls : Trace} {e : DispatchError}
  {address : Address} {o : Outbound} {a : Except TransportError Unit}
  {res : Except SendFailure Message}

/-- Where instances are healthy, a send for a record stops early only for a reason that will not
pass. -/
theorem Refusal.isPermanent (refusal : Refusal c (.ofMessage r) m calls e)
    (active : ∀ i r, m.instances.find? i = some r → r.isActive = true)
    (untroubled : ∀ e ∈ calls, Untroubled m.instances e) :
    e.kind = .permanent ∧ isDeliverable c m.instances r = false := by
  have undeliverable (h : ¬isDeliverable c m.instances r = true) :
      isDeliverable c m.instances r = false := by
    simpa using h
  cases refusal with
  | unknown absent =>
    refine ⟨rfl, undeliverable fun h => ?_⟩
    obtain ⟨i, found⟩ := (isDeliverable_iff.1 h).2.2.2.2.1
    exact nomatch absent.symm.trans found
  | inactive found inactive =>
    rw [active _ _ found] at inactive
    cases inactive
  | disconnected found asked refused =>
    rw [(untroubled _ asked _ _ found).1 _ rfl] at refused
    cases refused
  | unready found asked => exact ((untroubled _ asked _ _ found).2 rfl).elim
  | nowhere nowhere =>
    refine ⟨rfl, undeliverable fun h => ?_⟩
    obtain ⟨d, normal⟩ := (isDeliverable_iff.1 h).2.2.2.2.2
    exact nomatch nowhere.symm.trans normal
  | invalid invalid =>
    refine ⟨Content.isPermanent_of_validate invalid, undeliverable fun h => ?_⟩
    obtain ⟨-, text, payload, -⟩ := isDeliverable_iff.1 h
    have valid : (SendInput.ofMessage r).content.validate = .ok () :=
      Content.validate_ofRecord.2 ⟨text, payload⟩
    exact nomatch invalid.symm.trans valid
  | unloaded valid file =>
    obtain ⟨text, -⟩ := Content.validate_ofRecord.1 valid
    simp [SendInput.ofMessage, text, Content.ofRecord, Content.media?] at file

/-- A send for a record that comes to its transmission could be sent. -/
theorem Approved.isDeliverable (approved : Approved c (.ofMessage r) m calls address o)
    (due : Due (.ofMessage r) m) (notOver : r.status.isTerminal = false) :
    isDeliverable c m.instances r = true := by
  obtain ⟨text, payload⟩ := Content.validate_ofRecord.1 approved.valid
  obtain ⟨i, found, -⟩ := approved.known
  obtain ⟨calls', -, made⟩ := approved.resolved
  have complete := due.complete
  rw [Bool.or_eq_false_iff] at complete
  exact isDeliverable_iff.2
    ⟨notOver, text, payload, complete.1, ⟨i, found⟩, made.ends (resolve_ends _ _ _)⟩

/-- A send for a record of which the delivery is not over, where instances are healthy: the
transmission of what can be sent, or a failure that will not pass. -/
inductive Handled (c : GatewayConfig) (r : Message) (m : Memory) :
    Except SendFailure Message → Solo ω → Prop
  | sent {address : Address} {o : Outbound} {a : Except TransportError Unit} {r₀ r' : Message}
      {res : Except SendFailure Message} {s t : Solo ω} (result : res = verdict r' a)
      (deliverable : isDeliverable c m.instances r = true) (memory : s.memory = m)
      (idle : ∀ e ∈ s.log, e.Idle) (delivered : Delivered (.ofMessage r) address o s r₀ a r' t) :
    Handled c r m res t
  | rejected {failure : SendFailure} {t : Solo ω}
      (undeliverable : isDeliverable c m.instances r = false)
      (permanent : failure.error.kind = .permanent) (memory : t.memory = m)
      (idle : ∀ e ∈ t.log, e.Idle) :
    Handled c r m (.error failure) t

theorem Course.handled (course : Course c (.ofMessage r) m res t)
    (found : m.messages.find? r.id = some r) (notOver : r.status.isTerminal = false)
    (active : ∀ i r, m.instances.find? i = some r → r.isActive = true)
    (untroubled : ∀ e ∈ t.log, Untroubled m.instances e) : Handled c r m res t := by
  cases course with
  | incomplete incomplete memory calls =>
    refine .rejected ?_ rfl memory ?_
    · rw [Bool.eq_false_iff]
      intro h
      obtain ⟨-, -, -, owner, -, d, normal⟩ := isDeliverable_iff.1 h
      rcases Bool.or_eq_true_iff.1 incomplete with blank | empty
      · exact nomatch owner.symm.trans blank
      · have empty : r.recipient = "" := String.isEmpty_iff.1 empty
        rw [empty, normalize_empty] at normal
        cases normal
    · rw [calls]
      exact List.forall_mem_nil _
  | ended key found' ended =>
    cases key
    rw [found] at found'
    cases found'
    simp [notOver] at ended
  | refused due spared idle refusal =>
    obtain ⟨permanent, undeliverable⟩ := refusal.isPermanent active untroubled
    refine .rejected undeliverable permanent ?_ idle
    cases spared with
    | kept memory => exact memory
    | lowered found asked refused =>
      rw [(untroubled _ asked _ _ found).1 _ rfl] at refused
      cases refused
  | clashed _ _ _ clashed => cases clashed.key
  | delivered result due memory idle approved delivered =>
    exact .sent result (approved.isDeliverable due notOver) memory idle delivered

end Dispatch

namespace Delivery

open Dispatch

variable {c : GatewayConfig} {m : Memory} {r : Message}

/-- The messages of which a transmission is due, in the order of the records. -/
def due (c : GatewayConfig) (instances : InstanceStore) (rs : List Message) :
    List (Option MessageId) :=
  (rs.filter (isDeliverable c instances)).map fun r => some r.id

/-- The delivery of the record `r` on the memory `m` has come to its end, which is `r'`, and nothing
else has changed. -/
structure Completed (c : GatewayConfig) (r : Message) (m : Memory) (r' : Message) (t : Solo ω) :
    Prop where
  same : r.Same r'
  ended : r'.status.isTerminal = true
  messages : ∀ x, t.memory.messages.find? x = if x = r.id then some r' else m.messages.find? x
  rest : t.memory = { m with messages := t.memory.messages }
  tried : ∀ u, attempts (t.log ++ u) = due c m.instances [r] ++ attempts u

theorem Completed.of_delivered {address : Address} {o : Outbound} {r₀ r' : Message}
    {a : Except TransportError Unit} (found : s.memory.messages.find? r.id = some r)
    (deliverable : isDeliverable c s.memory.instances r = true) (idle : ∀ e ∈ s.log, e.Idle)
    (delivered : Delivered (.ofMessage r) address o s r₀ a r' t) : Completed c r s.memory r' t := by
  obtain ⟨entry, time, entered, eq, -⟩ := delivered.calls
  have same : r.Same r₀ := by
    obtain ⟨_, eq, -⟩ := entered.of_found rfl found
    rw [eq]
    exact ⟨rfl, rfl, rfl, rfl, rfl⟩
  refine ⟨same.trans ?_, delivered.isTerminal, fun x => ?_, delivered.rest, fun u => ?_⟩
  · rw [eq]
    exact ⟨rfl, rfl, rfl, rfl, rfl⟩
  · rw [delivered.messages, same.id]
  · rw [delivered.attempts_eq idle, same.id, due, List.filter_cons_of_pos deliverable]
    rfl

theorem Completed.of_givenUp (found : s.memory.messages.find? r.id = some r)
    (notOver : r.status.isTerminal = false)
    (undeliverable : isDeliverable c s.memory.instances r = false) (idle : ∀ e ∈ s.log, e.Idle)
    (gaveUp : GivenUp r.id s t) : ∃ r', Completed c r s.memory r' t := by
  have tried (u : Trace) : attempts (t.log ++ u) = attempts u :=
    attempts_append (gaveUp.untransmitted idle)
  cases gaveUp with
  | kept ended =>
    rw [ended r found] at notOver
    cases notOver
  | failed found' _ eq messages rest _ =>
    rw [found] at found'
    cases found'
    refine ⟨_, ⟨?_, ?_, messages, rest, fun u => ?_⟩⟩
    · rw [eq]
      exact ⟨rfl, rfl, rfl, rfl, rfl⟩
    · rw [eq]
      rfl
    · rw [tried, due, List.filter_cons_of_neg (by simp [undeliverable])]
      rfl

/-- **The work on the event of a record ends its delivery**, where instances are healthy. -/
theorem Processed.completed (processed : Processed c (.ofMessage r) m t)
    (found : m.messages.find? r.id = some r) (notOver : r.status.isTerminal = false)
    (active : ∀ i r, m.instances.find? i = some r → r.isActive = true)
    (untroubled : ∀ e ∈ t.log, Untroubled m.instances e) : ∃ r', Completed c r m r' t := by
  have readable' : SendInput.ofEvent (.ofMessage r) = .ok (.ofMessage r) :=
    SendInput.ofEvent_ofMessage r
  have sent {res : Except SendFailure Message} (handled : Handled c r m res t)
      (passing : ∀ failure, res = .error failure → failure.error.kind ≠ .permanent) :
      ∃ r', Completed c r m r' t := by
    cases handled with
    | sent _ deliverable memory idle delivered =>
      subst memory
      exact ⟨_, .of_delivered found deliverable idle delivered⟩
    | rejected _ permanent => exact absurd permanent (passing _ rfl)
  cases processed with
  | unreadable unreadable =>
    rw [readable'] at unreadable
    cases unreadable
  | sent readable course =>
    cases readable'.symm.trans readable
    exact sent (course.handled found notOver active untroubled) (by rintro _ ⟨⟩)
  | postponed readable course passing =>
    cases readable'.symm.trans readable
    exact sent (course.handled found notOver active untroubled) (by rintro _ ⟨⟩; exact passing)
  | rejected readable course permanent gaveUp =>
    cases readable'.symm.trans readable
    cases course.handled found notOver active fun e he =>
        untroubled e (gaveUp.log_suffix.subset he) with
    | @sent _ _ a _ _ _ _ _ result =>
      cases a with
      | ok => cases result
      | error =>
        cases result
        cases permanent
    | rejected undeliverable _ memory idle =>
      subst memory
      exact Completed.of_givenUp found notOver undeliverable idle gaveUp

/-- What holds of the work on the event of any record `r` that is found and whose delivery is not
over. -/
def Completes (outside : (c : Call) → ω → c.Answer × ω) (c : GatewayConfig)
    (instances : InstanceStore) (p : QueueEvent → Program Unit) : Prop :=
  ∀ (r : Message) (s : Solo ω), s.memory.instances = instances →
    s.memory.messages.find? r.id = some r → r.status.isTerminal = false →
    (Solo.setting outside).Ensures
      (fun _ t => ∃ (u : Solo ω) (r' : Message), Completed c r s.memory r' u ∧
        t.memory = u.memory ∧ t.log = u.log ++ s.log) (p (.ofMessage r)) s

section

-- a worker is known by what it ensures, and its calls are not looked at again
attribute [local irreducible] Setting.Ensures

theorem completes_processEvent (c : GatewayConfig) {instances : InstanceStore}
    (healthy : Healthy outside instances) : Completes outside c instances (processEvent c) := by
  rintro r s rfl found notOver
  have processed : (Solo.setting outside).Ensures
      (fun _ u => Processed c (.ofMessage r) s.memory u) (processEvent c (.ofMessage r))
      ⟨s.memory, s.world, []⟩ := ensures_processed c _ _ _
  have answered : (Solo.setting outside).Ensures
      (fun _ u => ∀ e ∈ u.log, Untroubled s.memory.instances e) (processEvent c (.ofMessage r))
      ⟨s.memory, s.world, []⟩ :=
    Solo.ensures_answered _ healthy.untroubled (List.forall_mem_nil _)
  refine (Solo.ensures_after (processed.and answered)).mono ?_
  rintro _ t - ⟨u, ⟨processed, untroubled⟩, memory, log⟩
  obtain ⟨r', completed⟩ := processed.completed found notOver healthy.active untroubled
  exact ⟨u, r', completed, memory, log⟩

end

/-! ## Many events -/

/-- The events that wait are taken out and dealt with by `p`, one after the other, `n` at most. -/
def drain (p : QueueEvent → Program Unit) : (n : Nat) → Program Unit
  | 0 => pure ()
  | n + 1 => do
    match ← popQueue with
    | none => pure ()
    | some e =>
      p e
      drain p n

/-- The events of the records `rs` have been dealt with: their deliveries have come to an end, other
records are as they were, and what was due was transmitted in their order. -/
structure WorkedOff (c : GatewayConfig) (rs : List Message) (s t : Solo ω) : Prop where
  queue : t.memory.queue.events = []
  ended : ∀ r ∈ rs, ∃ r', t.memory.messages.find? r.id = some r' ∧ r.Same r' ∧
    r'.status.isTerminal = true
  others : ∀ x, x ∉ rs.map Message.id → t.memory.messages.find? x = s.memory.messages.find? x
  tried : attempts t.log = (due c s.memory.instances rs).reverse ++ attempts s.log

/-- The first event was taken out and dealt with, and then the others were. -/
theorem WorkedOff.cons {r' : Message} {rs : List Message} {queue : DeliveryQueue} {u v : Solo ω}
    (completed : Completed c r { s.memory with queue } r' u) (memory : v.memory = u.memory)
    (log : attempts v.log = attempts (u.log ++ s.log)) (fresh : r.id ∉ rs.map Message.id)
    (rest : WorkedOff c rs v t) : WorkedOff c (r :: rs) s t := by
  have messages (x : MessageId) : v.memory.messages.find? x =
      if x = r.id then some r' else s.memory.messages.find? x := by
    rw [memory]
    exact completed.messages x
  have instances : v.memory.instances = s.memory.instances := by
    rw [memory, completed.rest]
  refine ⟨rest.queue, fun r₁ hr => ?_, fun x hx => ?_, ?_⟩
  · rcases List.mem_cons.1 hr with rfl | hr
    · refine ⟨r', ?_, completed.same, completed.ended⟩
      rw [rest.others _ fresh, messages, if_pos rfl]
    · exact rest.ended r₁ hr
  · rw [List.map_cons, List.mem_cons, not_or] at hx
    rw [rest.others x hx.2, messages, if_neg hx.1]
  · have first := completed.tried s.log
    rw [rest.tried, instances, log, first, ← List.append_assoc]
    congr 1
    have split : due c s.memory.instances (r :: rs) =
        due c s.memory.instances [r] ++ due c s.memory.instances rs := by
      simp only [due, ← List.map_append, ← List.filter_append, List.singleton_append]
    have single : (due c s.memory.instances [r]).reverse = due c s.memory.instances [r] := by
      unfold due
      cases deliverable : isDeliverable c s.memory.instances r <;> simp [deliverable]
    rw [split, List.reverse_append, single]

theorem ensures_popQueue {e : QueueEvent} {es : List QueueEvent}
    (queue : s.memory.queue.events = e :: es) : (Solo.setting outside).Ensures
      (fun a t => a = some e ∧
        t.memory = { s.memory with queue := { s.memory.queue with events := es } } ∧
        t.log = ⟨.popQueue, a⟩ :: s.log) popQueue s := by
  have popped : s.memory.answer? .popQueue =
      some (some e, { s.memory with queue := { s.memory.queue with events := es } }) := by
    rw [Memory.answer?, DeliveryQueue.pop, queue]
    rfl
  refine ensures_ask fun a t served => ?_
  obtain ⟨rfl, rfl⟩ := Solo.answer_of_some popped served
  exact ⟨rfl, rfl, rfl⟩

/-- **The work on the events of many records** ends the deliveries of all of them. -/
theorem ensures_drain {p : QueueEvent → Program Unit} {rs : List Message}
    (completes : Completes outside c s.memory.instances p)
    (queue : s.memory.queue.events = rs.map .ofMessage)
    (unfinished : ∀ r ∈ rs, s.memory.messages.find? r.id = some r ∧ r.status.isTerminal = false)
    (distinct : (rs.map Message.id).Nodup) {n : Nat} (enough : rs.length ≤ n) :
    (Solo.setting outside).Ensures (fun _ t => WorkedOff c rs s t) (drain p n) s := by
  induction rs generalizing s n with
  | nil =>
    cases n with
    | zero =>
      rintro _ rfl
      exact ⟨queue, by rintro r ⟨⟩, fun _ _ => rfl, rfl⟩
    | succ n =>
      have popped : s.memory.answer? .popQueue = some (none, s.memory) := by
        rw [Memory.answer?, DeliveryQueue.pop, queue]
        rfl
      refine (Solo.ensures_read popped).bind fun e t _ hQ => ?_
      obtain ⟨rfl, memory, log⟩ := hQ t rfl
      rintro _ rfl
      refine ⟨by rw [memory, queue]; rfl, by rintro r ⟨⟩, fun _ _ => by rw [memory], ?_⟩
      rw [log]
      rfl
  | cons r rs ih =>
    obtain ⟨n, rfl⟩ : ∃ n', n = n' + 1 := ⟨n - 1, by simp at enough; omega⟩
    refine (ensures_popQueue queue).bind fun _ t _ hQ => ?_
    obtain ⟨rfl, memory, log⟩ := hQ t rfl
    obtain ⟨found, notOver⟩ := unfinished r List.mem_cons_self
    obtain ⟨fresh, distinct⟩ := List.nodup_cons.1 distinct
    have worked := completes r t (by rw [memory]) (by rwa [memory]) notOver
    refine worked.bind fun _ v _ hQ => ?_
    obtain ⟨u, r', completed, memory', log'⟩ := hQ v rfl
    rw [memory] at completed
    have left : v.memory.queue.events = rs.map .ofMessage := by
      rw [memory', completed.rest]
    have instances : v.memory.instances = s.memory.instances := by
      rw [memory', completed.rest]
    have others (r₁ : Message) (hr : r₁ ∈ rs) :
        v.memory.messages.find? r₁.id = some r₁ ∧ r₁.status.isTerminal = false := by
      have different : r₁.id ≠ r.id := fun eq => fresh (eq ▸ List.mem_map_of_mem hr)
      rw [memory', completed.messages, if_neg different]
      exact unfinished r₁ (List.mem_cons_of_mem _ hr)
    rw [← instances] at completes
    refine (ih completes left others distinct (Nat.le_of_succ_le_succ enough)).mono ?_
    intro _ w _ rest
    refine WorkedOff.cons completed memory' ?_ fresh rest
    rw [log', log, completed.tried, completed.tried]
    rfl

section

variable {rs : List Message} {x : MessageId}

theorem WorkedOff.find?_of_absent (worked : WorkedOff c rs s t)
    (perm : rs.Perm s.memory.messages.unfinished) (absent : s.memory.messages.find? x = none) :
    t.memory.messages.find? x = none := by
  rw [worked.others, absent]
  intro hx
  obtain ⟨r, hr, rfl⟩ := List.mem_map.1 hx
  rw [(MessageStore.mem_unfinished.1 (perm.mem_iff.1 hr)).1] at absent
  cases absent

/-- When everything that was unfinished has been worked off, every delivery is over. -/
theorem WorkedOff.exists_row (worked : WorkedOff c rs s t)
    (perm : rs.Perm s.memory.messages.unfinished) (found : s.memory.messages.find? x = some r) :
    ∃ r', t.memory.messages.find? x = some r' ∧ r.Same r' ∧ r'.status.isTerminal = true ∧
      (r.status.isTerminal = true → r' = r) := by
  obtain rfl := Table.key_of_find? found
  cases ended : r.status.isTerminal with
  | true =>
    refine ⟨r, ?_, .refl r, ended, fun _ => rfl⟩
    rw [worked.others, found]
    intro hx
    obtain ⟨r₁, hr, same⟩ := List.mem_map.1 hx
    obtain ⟨found', notOver⟩ := MessageStore.mem_unfinished.1 (perm.mem_iff.1 hr)
    rw [same, found] at found'
    cases found'
    simp [ended] at notOver
  | false =>
    have hr : r ∈ rs := perm.mem_iff.2 (MessageStore.mem_unfinished.2 ⟨found, ended⟩)
    obtain ⟨r', found', same, ended'⟩ := worked.ended r hr
    exact ⟨r', found', same, ended', fun h => by cases h⟩

/-- All that can be sent is unfinished. -/
theorem filter_isDeliverable_perm {messages : MessageStore} (c : GatewayConfig)
    (instances : InstanceStore) (perm : rs.Perm messages.unfinished) :
    (rs.filter (isDeliverable c instances)).Perm
      (messages.rows.filter (isDeliverable c instances)) := by
  refine (perm.filter _).trans (.of_eq ?_)
  rw [MessageStore.unfinished, List.filter_filter]
  refine List.filter_congr fun r _ => ?_
  cases ended : r.status.isTerminal <;> simp [isDeliverable, ended]

end

/-! ## The recovery -/

section

attribute [local irreducible] Setting.Ensures Program.run

/-- **Recovery is complete.** Let the message store hold anything, and let the queue be empty and
open. If the instances are healthy and the batch is large enough, a sweep and the work on its
events, one after the other, bring every delivery to its end, whatever transmissions and probes are
answered. Records of which the delivery was over are as they were, and no others have come. What
could be sent was transmitted once, or tried to be, in the order in which records are listed. -/
theorem recovery_completes (outside : (c : Call) → ω → c.Answer × ω) (c : GatewayConfig)
    (m : Memory) (w : ω) (batch n : Nat) (empty : m.queue.events = [])
    (opened : m.queue.isClosed = false) (healthy : Healthy outside m.instances)
    (enough : m.messages.unfinished.length ≤ batch) (rounds : m.messages.unfinished.length ≤ n) :
    let swept := (sweepOnce batch).run (Solo.answer outside) ⟨m, w, []⟩
    let t := ((drain (processEvent c) n).run (Solo.answer outside) swept.2).2
    swept.1 = .ok m.messages.unfinished.length ∧ t.memory.queue.events = [] ∧
      (∀ x, m.messages.find? x = none → t.memory.messages.find? x = none) ∧
      (∀ x r, m.messages.find? x = some r → ∃ r', t.memory.messages.find? x = some r' ∧
        r.Same r' ∧ r'.status.isTerminal = true ∧ (r.status.isTerminal = true → r' = r)) ∧
      ∃ rs : List Message, rs.Perm (m.messages.rows.filter (isDeliverable c m.instances)) ∧
        rs.Pairwise (fun a b => a.listedBefore b = true) ∧
        (attempts t.log).reverse = rs.map fun r => some r.id := by
  intro swept t
  let rs := m.messages.pending batch
  have perm : rs.Perm m.messages.unfinished := MessageStore.pending_perm enough
  have sweep : Swept batch m swept.1 swept.2 := run_of_ensures (ensures_swept batch m w)
  obtain ⟨result, queue⟩ := sweep.taken opened
  have messages : swept.2.memory.messages = m.messages := by rw [sweep.rest]
  have instances : swept.2.memory.instances = m.instances := by rw [sweep.rest]
  have events : swept.2.memory.queue.events = rs.map .ofMessage := by
    rw [queue]
    simp [empty, rs]
  have unfinished (r : Message) (hr : r ∈ rs) :
      swept.2.memory.messages.find? r.id = some r ∧ r.status.isTerminal = false := by
    rw [messages]
    exact MessageStore.mem_unfinished.1 (perm.mem_iff.1 hr)
  have distinct : (rs.map Message.id).Nodup :=
    (perm.map _).nodup_iff.2 ((List.filter_sublist.map _).nodup m.messages.distinct)
  have completes : Completes outside c swept.2.memory.instances (processEvent c) :=
    completes_processEvent c (by rwa [instances])
  have worked : WorkedOff c rs swept.2 t := run_of_ensures
    (ensures_drain completes events unfinished distinct (perm.length_eq ▸ rounds))
  have silent : attempts swept.2.log = [] := by
    have none := attempts_append (t := []) sweep.untransmitted
    rwa [List.append_nil] at none
  rw [← messages] at perm ⊢
  refine ⟨?_, worked.queue, fun x => worked.find?_of_absent perm,
    fun x r => worked.exists_row perm, ?_⟩
  · rw [result, perm.length_eq]
  · refine ⟨rs.filter (isDeliverable c m.instances), filter_isDeliverable_perm c _ perm, ?_, ?_⟩
    · exact (MessageStore.pairwise_pending _ _).sublist List.filter_sublist
    · rw [worked.tried, silent, List.append_nil, List.reverse_reverse, due, instances]

end

/-- What a crash has left in the sample: a text whose delivery had begun, an older text that waits,
a picture, a text for nobody, one of a strange instance, and a text that was sent. -/
def Sample.leftover : Memory where
  messages := List.foldl Table.insert Table.empty
    [{ Sample.record with status := .sending, created := ⟨1, 0⟩ },
      { Sample.record with id := ⟨7⟩ },
      { Sample.record with id := ⟨2⟩, kind := .image },
      { Sample.record with id := ⟨3⟩, recipient := " " },
      { Sample.record with id := ⟨4⟩, owner := ⟨"B"⟩ },
      { Sample.record with id := ⟨6⟩, status := .sent }]
  instances := Sample.memory.instances

/-- The texts among them that can be sent, the older one first. -/
def Sample.sendable : List Message :=
  [{ Sample.record with id := ⟨7⟩ },
    { Sample.record with status := .sending, created := ⟨1, 0⟩ }]

theorem Sample.healthy : Healthy Sample.surroundings Sample.leftover.instances := by
  refine ⟨fun i r found => ?_, fun i _ _ _ => ⟨⟨i, true⟩, rfl, rfl⟩, fun _ _ _ _ => rfl⟩
  obtain rfl := List.mem_singleton.1 (List.mem_of_find?_eq_some found)
  rfl

/-- The sample recovers: the two texts that can be sent are transmitted, the older one first. -/
theorem recovery_completes_sample :
    let swept := (sweepOnce 5).run (Solo.answer Sample.surroundings) ⟨Sample.leftover, 0, []⟩
    let t := ((drain (processEvent {}) 5).run (Solo.answer Sample.surroundings) swept.2).2
    swept.1 = .ok 5 ∧ (∀ x r, Sample.leftover.messages.find? x = some r →
        ∃ r', t.memory.messages.find? x = some r' ∧ r'.status.isTerminal = true) ∧
      (attempts t.log).reverse = [some ⟨7⟩, some ⟨5⟩] := by
  intro swept t
  obtain ⟨result, -, -, ended, rs, perm, ordered, attempted⟩ :=
    recovery_completes Sample.surroundings {} Sample.leftover 0 5 5 rfl rfl Sample.healthy
      (by decide) (by decide)
  refine ⟨result, fun x r found => ?_, ?_⟩
  · obtain ⟨r', found', -, ended', -⟩ := ended x r found
    exact ⟨r', found', ended'⟩
  · have due : (Sample.leftover.messages.rows.filter
        (isDeliverable {} Sample.leftover.instances)).Perm Sample.sendable := by
      decide
    have older : ∀ a ∈ Sample.sendable, ∀ b ∈ Sample.sendable, a.listedBefore b = true →
        b.listedBefore a = true → a = b := by
      decide
    have same := (perm.trans due).eq_of_pairwise
      (fun a b ha => older a ((perm.trans due).mem_iff.1 ha) b) ordered (by decide)
    rw [attempted, same]
    rfl

end Delivery

end MessageGateway
