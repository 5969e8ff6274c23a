import MessageGateway.Proofs.Delivery.Events
import MessageGateway.Proofs.Delivery.Succession

/-!
# The integrity of what is queued

Between its submission and its transmission a text is written down twice, in the record and in the
event, and read back from the event. Neither of the two ever changes: the record says the same as
when it was made, and the event is the event of the record. So what a worker transmits is the text
that was submitted, for the destination of the record. The summary of a file is no text, and no
worker transmits it.

## Main definitions

* `Delivery.origin old t x`: the record of a message as it was at first
* `Message.Faithful`: a later form of a record that says the same
* `Delivery.Tended`: what the calls of one operation come to
* `Delivery.Outboxed`: any operations in turn, with workers that deal with queued events

## Main results

* `Delivery.Coherent.next`: records and events stay faithful to what was there at first
* `Delivery.transmits_origin`: workers transmit what was submitted
-/

namespace MessageGateway

open Program Setting

variable {ω : Type} {outside : (c : Call) → ω → c.Answer × ω} {s t : Solo ω}

/-- The record that was made. -/
def Exchange.created? : Exchange → Option Message
  | ⟨.createMessage r, .ok _⟩ => some r
  | _ => none

/-- No record was made, and no event was put into the queue. -/
def Exchange.Quiet (e : Exchange) : Prop :=
  e.created? = none ∧ e.enqueued? = none

theorem Exchange.Idle.quiet {e : Exchange} (idle : e.Idle) : e.Quiet := by
  refine ⟨?_, idle.enqueued⟩
  have written := idle.written
  unfold Exchange.created?
  split
  · cases written
  · rfl

/-- The second record is of the same message and says the same. -/
structure Message.Faithful (a b : Message) : Prop extends Message.Same a b where
  payload : b.payload = a.payload

namespace Message.Faithful

variable {a b c : Message}

theorem refl (a : Message) : a.Faithful a :=
  ⟨.refl a, rfl⟩

theorem trans (h : a.Faithful b) (h' : b.Faithful c) : a.Faithful c :=
  ⟨h.toSame.trans h'.toSame, h'.payload.trans h.payload⟩

/-- Faithful records have the same event. -/
theorem ofMessage_eq (h : a.Faithful b) : QueueEvent.ofMessage b = .ofMessage a := by
  rw [QueueEvent.ofMessage, h.id, h.owner, h.recipient, h.kind, h.created, h.payload]
  rfl

end Message.Faithful

namespace Delivery

variable {c : GatewayConfig} {m : Memory} {x : MessageId} {r r' : Message} {e : QueueEvent}
  {old new : MessageStore} {calls log : Trace}

/-! ## What is made and what is queued -/

/-- The events that the queue took, last one first. -/
def enqueued (t : Trace) : List QueueEvent :=
  t.filterMap Exchange.enqueued?

/-- The record of the message `x` as it was made. -/
def created? (t : Trace) (x : MessageId) : Option Message :=
  t.findSome? fun e => e.created?.filter fun r => r.id = x

/-- The record of the message `x` as it was at first, in the store or when it was made. -/
def origin (old : MessageStore) (t : Trace) (x : MessageId) : Option Message :=
  (old.find? x).or (created? t x)

theorem enqueued_append (calls log : Trace) :
    enqueued (calls ++ log) = enqueued calls ++ enqueued log :=
  List.filterMap_append

theorem created?_append (calls log : Trace) (x : MessageId) :
    created? (calls ++ log) x = (created? calls x).or (created? log x) :=
  List.findSome?_append

theorem enqueued_of_quiet (quiet : ∀ e ∈ calls, e.Quiet) : enqueued calls = [] :=
  List.filterMap_eq_nil_iff.2 fun e he => (quiet e he).2

theorem created?_of_quiet (quiet : ∀ e ∈ calls, e.Quiet) (x : MessageId) :
    created? calls x = none := by
  rw [created?, List.findSome?_eq_none_iff]
  intro e he
  rw [(quiet e he).1]
  rfl

/-! ## What an operation does -/

/-- What the calls of an operation come to, from the messages `old` to the messages `new`. -/
structure Tended (old new : MessageStore) (calls : Trace) : Prop where
  /-- No record is made under a name that is taken. -/
  fresh : ∀ x r, old.find? x = some r → created? calls x = none
  /-- Records stay faithful to what they were at first. -/
  rows : ∀ x, Option.Rel Message.Faithful (origin old calls x) (new.find? x)
  /-- Events are those of records. -/
  events : ∀ e ∈ enqueued calls, ∃ r, new.find? e.id = some r ∧ e = .ofMessage r

theorem rel_refl (o : Option Message) : Option.Rel Message.Faithful o o := by
  cases o with
  | none => exact .none
  | some r => exact .some (.refl r)

theorem rel_trans {o₁ o₂ o₃ : Option Message} (h : Option.Rel Message.Faithful o₁ o₂)
    (h' : Option.Rel Message.Faithful o₂ o₃) : Option.Rel Message.Faithful o₁ o₃ := by
  cases h with
  | none => exact h'
  | some faithful =>
    cases h' with
    | some faithful' => exact .some (faithful.trans faithful')

/-- Nothing is made and nothing queued, and the records that are there stay faithful. -/
theorem tended_of_quiet (quiet : ∀ e ∈ calls, e.Quiet)
    (rows : ∀ x, Option.Rel Message.Faithful (old.find? x) (new.find? x)) :
    Tended old new calls := by
  refine ⟨fun x _ _ => created?_of_quiet quiet x, fun x => ?_, fun e he => ?_⟩
  · rw [origin, created?_of_quiet quiet, Option.or_none]
    exact rows x
  · rw [enqueued_of_quiet quiet] at he
    cases he

/-- A record is rewritten that says the same. -/
theorem rel_of_rewritten (found : old.find? r.id = some r) (faithful : r.Faithful r')
    (messages : ∀ y, new.find? y = if y = r.id then some r' else old.find? y) (y : MessageId) :
    Option.Rel Message.Faithful (old.find? y) (new.find? y) := by
  rw [messages]
  split
  · next hy =>
    rw [hy, found]
    exact .some faithful
  · exact rel_refl _

/-- A record is made under a name that was free. -/
theorem tended_of_created (absent : old.find? r.id = none) (faithful : r.Faithful r')
    (created : ∀ y, created? calls y = if r.id = y then some r else none)
    (messages : ∀ y, new.find? y = if y = r.id then some r' else old.find? y)
    (events : ∀ e ∈ enqueued calls, e = .ofMessage r') : Tended old new calls := by
  refine ⟨fun y r₀ found => ?_, fun y => ?_, fun e he => ?_⟩
  · rw [created, if_neg]
    rintro rfl
    rw [absent] at found
    cases found
  · rw [origin, created, messages]
    by_cases hy : y = r.id
    · subst hy
      rw [absent, if_pos rfl, if_pos rfl]
      exact .some faithful
    · rw [if_neg (Ne.symm hy), if_neg hy, Option.or_none]
      exact rel_refl _
  · have eq := events e he
    have named : e.id = r.id := by
      rw [eq]
      exact faithful.id
    exact ⟨r', by rw [messages, if_pos named], eq⟩

theorem Submitted.tended {input : EnqueueInput} {res : Except DispatchError Message}
    (submitted : Submitted input m res t) : Tended m.messages t.memory.messages t.log := by
  cases submitted with
  | rejected _ memory calls =>
    rw [memory, calls]
    exact tended_of_quiet (List.forall_mem_nil _) fun _ => rel_refl _
  | clashed _ memory calls =>
    obtain ⟨r, time, -, calls⟩ := calls
    rw [memory, calls]
    refine tended_of_quiet ?_ fun _ => rel_refl _
    simp [Exchange.Quiet, Exchange.created?, Exchange.enqueued?]
  | @accepted x time r a _ _ absent eq messages _ calls =>
    have named : r.id = x := by
      rw [eq]
      rfl
    subst named
    rw [calls]
    refine tended_of_created absent (.refl r) (fun y => ?_) messages fun e he => ?_
    · by_cases hy : r.id = y <;> simp [created?, Exchange.created?, hy]
    · cases a <;> simp [enqueued, Exchange.enqueued?] at he
      exact he

theorem Swept.tended {batch : Nat} {res : Except StoreError Nat} (swept : Swept batch m res t) :
    Tended m.messages t.memory.messages t.log := by
  obtain ⟨offers, log, offers_of⟩ := swept.calls
  have created (x : MessageId) : created? t.log x = none := by
    rw [log, created?_append]
    rw [created?, List.findSome?_eq_none_iff.2 fun e he => ?_]
    · rfl
    · obtain ⟨r, -, a, rfl⟩ := offers_of e he
      rfl
  have messages : t.memory.messages = m.messages := by
    rw [swept.rest]
  refine ⟨fun x _ _ => created x, fun x => ?_, fun e he => ?_⟩
  · rw [origin, created, Option.or_none, messages]
    exact rel_refl _
  · rw [log, enqueued_append, List.mem_append] at he
    rcases he with he | he
    · obtain ⟨offer, hoffer, taken⟩ := List.mem_filterMap.1 he
      obtain ⟨r, hr, a, rfl⟩ := offers_of offer hoffer
      have eq : QueueEvent.ofMessage r = e := by
        cases a with
        | ok _ => exact Option.some.inj taken
        | error _ => cases taken
      subst eq
      have row := (List.mergeSort_perm _ _).mem_iff.1 (List.mem_of_mem_take hr)
      exact ⟨r, by rw [messages]; exact Table.find?_of_mem (List.mem_of_mem_filter row), rfl⟩
    · cases he

end Delivery

namespace Dispatch

open Delivery

variable {c : GatewayConfig} {m : Memory} {input : SendInput} {x : MessageId} {r r' : Message}
  {calls : Trace} {i : InstanceId} {address : Address} {o : Outbound}
  {a : Except TransportError Unit} {res : Except SendFailure Message}

/-- A record that is given up says the same. -/
theorem GivenUp.rows (gaveUp : GivenUp x s t) (y : MessageId) :
    Option.Rel Message.Faithful (s.memory.messages.find? y) (t.memory.messages.find? y) := by
  cases gaveUp with
  | kept _ memory _ =>
    rw [memory]
    exact rel_refl _
  | failed found _ eq messages _ _ =>
    obtain rfl := Table.key_of_find? found
    refine rel_of_rewritten found ?_ messages y
    rw [eq]
    exact ⟨⟨rfl, rfl, rfl, rfl, rfl⟩, rfl⟩

theorem GivenUp.tended (gaveUp : GivenUp x s t) (idle : ∀ e ∈ s.log, e.Idle) :
    Tended s.memory.messages t.memory.messages t.log := by
  have before (e : Exchange) (he : e ∈ s.log) := (idle e he).quiet
  refine tended_of_quiet ?_ gaveUp.rows
  cases gaveUp with
  | kept _ _ calls =>
    rw [calls]
    exact List.forall_mem_cons.2 ⟨⟨rfl, rfl⟩, before⟩
  | failed _ _ _ _ _ calls =>
    rw [calls]
    refine List.forall_mem_append.2 ⟨?_, before⟩
    simp [Exchange.Quiet, Exchange.created?, Exchange.enqueued?]

/-- The record at the end of a delivery says what was entered. -/
theorem Delivered.faithful (delivered : Delivered input address o s r a r' t) : r.Faithful r' := by
  obtain ⟨entry, time, -, eq, -⟩ := delivered.calls
  rw [eq]
  exact ⟨⟨rfl, rfl, rfl, rfl, rfl⟩, rfl⟩

/-- Short of a delivery, a send makes no record and leaves those that are there. -/
theorem Course.tended (course : Course c input m res t)
    (delivery : ∀ {u : Solo ω} {address : Address} {o : Outbound} {r r' : Message}
      {a : Except TransportError Unit}, u.memory = m → (∀ e ∈ u.log, e.Idle) →
      Approved c input m u.log address o → Delivered input address o u r a r' t →
      Tended m.messages t.memory.messages t.log) :
    Tended m.messages t.memory.messages t.log := by
  cases course with
  | incomplete _ memory calls =>
    rw [memory, calls]
    exact tended_of_quiet (List.forall_mem_nil _) fun _ => rel_refl _
  | ended _ _ _ memory calls =>
    rw [memory, calls]
    exact tended_of_quiet (List.forall_mem_singleton.2 ⟨rfl, rfl⟩) fun _ => rel_refl _
  | refused _ spared idle _ =>
    rw [spared.messages_eq]
    exact tended_of_quiet (fun e he => (idle e he).quiet) fun _ => rel_refl _
  | clashed _ memory idle clashed =>
    obtain ⟨r, time, -, log⟩ := clashed.calls
    rw [clashed.memory, memory, log]
    refine tended_of_quiet (List.forall_mem_append.2 ⟨?_, fun e he => (idle e he).quiet⟩)
      fun _ => rel_refl _
    simp [Exchange.Quiet, Exchange.created?, Exchange.enqueued?]
  | delivered _ _ memory idle approved delivered => exact delivery memory idle approved delivered

/-- A send without a name makes a record, if it comes to that. -/
theorem Course.tended_of_unnamed (course : Course c input m res t) (unnamed : input.id = none) :
    Tended m.messages t.memory.messages t.log := by
  refine course.tended fun {u _ _ r r' _} memory idle _ delivered => ?_
  subst memory
  obtain ⟨entry, time, entered, -, log⟩ := delivered.calls
  cases entered with
  | again key =>
    rw [unnamed] at key
    cases key
  | anew key =>
    rw [unnamed] at key
    cases key
  | @named x time _ absent eq =>
    have named : r.id = x := by
      rw [eq]
      rfl
    subst named
    have before (e : Exchange) (he : e ∈ u.log) := (idle e he).quiet
    refine tended_of_created absent delivered.faithful (fun y => ?_) delivered.messages ?_
    · rw [log, created?_append, created?_append, created?_of_quiet before]
      by_cases hy : r.id = y <;> simp [created?, Exchange.created?, hy]
    · rw [log, enqueued_append, enqueued_append, enqueued_of_quiet before]
      rintro e ⟨⟩

/-- A worker that comes to the transmission has a text. -/
theorem Approved.eq_text (approved : Approved c (.ofMessage r) m calls address o) :
    r.kind = .text ∧ o = .text r.payload := by
  obtain ⟨text, -⟩ := Content.validate_ofRecord.1 approved.valid
  obtain ⟨uploaded, time, words, built⟩ := approved.built
  refine ⟨text, ?_⟩
  rw [SendInput.ofMessage, text] at built
  exact (Except.ok.inj built).symm

/-- A send for a record writes down what the record says. -/
theorem Course.tended_of_found (course : Course c (.ofMessage r) m res t)
    (found : m.messages.find? r.id = some r) : Tended m.messages t.memory.messages t.log := by
  refine course.tended fun {u _ _ r₀ r' _} memory idle approved delivered => ?_
  subst memory
  obtain ⟨entry, time, entered, -, log⟩ := delivered.calls
  obtain ⟨_, eq, rfl⟩ := entered.of_found rfl found
  have faithful : r.Faithful r₀ := by
    rw [eq, approved.eq_text.2]
    exact ⟨⟨rfl, rfl, rfl, rfl, rfl⟩, rfl⟩
  have messages := delivered.messages
  rw [faithful.id] at messages
  refine tended_of_quiet ?_ (rel_of_rewritten found (faithful.trans delivered.faithful) messages)
  rw [log, ← List.append_assoc]
  refine List.forall_mem_append.2 ⟨?_, fun e he => (idle e he).quiet⟩
  simp [Exchange.Quiet, Exchange.created?, Exchange.enqueued?]

/-- What a send transmits was approved. -/
theorem Course.approved_of_transmit (course : Course c input m res t)
    (transmits : ⟨.transmit i address o, a⟩ ∈ t.log) :
    i = input.owner ∧ ∃ calls, calls <:+: t.log ∧ Approved c input m calls address o := by
  have impossible {calls : Trace} (untransmitted : ∀ e ∈ calls, e.call.isTransmission = false)
      (h : ⟨.transmit i address o, a⟩ ∈ calls) : False :=
    nomatch untransmitted _ h
  cases course with
  | incomplete _ _ calls =>
    rw [calls] at transmits
    cases transmits
  | ended _ _ _ _ calls =>
    rw [calls, List.mem_singleton] at transmits
    cases transmits
  | refused _ _ idle _ =>
    exact (impossible (fun e he => (idle e he).untransmitted) transmits).elim
  | clashed _ _ idle clashed => exact (impossible (clashed.untransmitted idle) transmits).elim
  | @delivered u _ _ _ _ _ _ _ _ _ _ idle approved delivered =>
    obtain ⟨entry, time, entered, -, log⟩ := delivered.calls
    have within : u.log <:+: t.log := by
      rw [log, ← List.append_assoc]
      exact (List.suffix_append _ _).isInfix
    rw [log, List.mem_append, List.mem_append] at transmits
    rcases transmits with h | h | h
    · cases h with | tail _ h =>
      cases h with | tail _ h =>
      cases h with
      | head => exact ⟨rfl, u.log, within, approved⟩
      | tail _ h => cases h
    · exact (impossible entered.untransmitted h).elim
    · exact (impossible (fun e he => (idle e he).untransmitted) h).elim

end Dispatch

namespace Delivery

variable {c : GatewayConfig} {m : Memory} {x : MessageId} {r : Message} {e : QueueEvent}
  {old : MessageStore} {calls : Trace} {i : InstanceId} {address : Address} {o : Outbound}
  {a : Except TransportError Unit}

theorem Processed.tended (processed : Processed c (.ofMessage r) m t)
    (found : m.messages.find? r.id = some r) : Tended m.messages t.memory.messages t.log := by
  have readable' := SendInput.ofEvent_ofMessage r
  cases processed with
  | unreadable unreadable =>
    rw [readable'] at unreadable
    cases unreadable
  | sent readable course =>
    cases readable'.symm.trans readable
    exact course.tended_of_found found
  | postponed readable course =>
    cases readable'.symm.trans readable
    exact course.tended_of_found found
  | rejected _ course permanent gaveUp =>
    obtain ⟨spared, idle⟩ := spared_of_permanent course permanent
    rw [← spared.messages_eq]
    exact gaveUp.tended idle

/-- **A worker with the event of a record transmits the text of the record**, for the address that
the destination of the record resolves to. -/
theorem Processed.eq_of_transmit (processed : Processed c (.ofMessage r) m t)
    (transmits : ⟨.transmit i address o, a⟩ ∈ t.log) :
    r.kind = .text ∧ i = r.owner ∧ o = .text r.payload ∧ ∃ calls, calls <:+: t.log ∧
      (resolve c.resolver r.owner r.recipient).Made calls (.done (.ok address)) := by
  have readable' := SendInput.ofEvent_ofMessage r
  have sent {res : Except SendFailure Message}
      (course : Dispatch.Course c (.ofMessage r) m res t) :
      r.kind = .text ∧ i = r.owner ∧ o = .text r.payload ∧ ∃ calls, calls <:+: t.log ∧
        (resolve c.resolver r.owner r.recipient).Made calls (.done (.ok address)) := by
    obtain ⟨owner, calls, within, approved⟩ := course.approved_of_transmit transmits
    obtain ⟨calls', within', made⟩ := approved.resolved
    exact ⟨approved.eq_text.1, owner, approved.eq_text.2, calls', within'.trans within, made⟩
  have gaveUp {s : Solo ω} (idle : ∀ e ∈ s.log, e.Idle) (gaveUp : Dispatch.GivenUp r.id s t) :
      False :=
    nomatch gaveUp.untransmitted idle _ transmits
  cases processed with
  | unreadable _ _ calls up =>
    refine (gaveUp ?_ up).elim
    rw [calls]
    exact List.forall_mem_nil _
  | sent readable course =>
    cases readable'.symm.trans readable
    exact sent course
  | postponed readable course =>
    cases readable'.symm.trans readable
    exact sent course
  | rejected _ course permanent up =>
    exact (gaveUp (spared_of_permanent course permanent).2 up).elim

/-! ## Runs of an outbox -/

/-- The operation may be begun after these calls: a send has no name, and a worker deals with an
event that was queued. -/
def Operation.Fits (log : Trace) : Operation → Prop
  | .send input => input.id = none
  | .process e => e ∈ enqueued log
  | .submit _ | .giveUp _ | .sweep _ => True

/-- Operations in turn. In between, events may be lost, repeated and put into another order. -/
inductive Outboxed (outside : (c : Call) → ω → c.Answer × ω) (c : GatewayConfig)
    (start : Solo ω) : Solo ω → Prop
  | start : Outboxed outside c start start
  | operation {s : Solo ω} (run : Outboxed outside c start s) {op : Operation}
      (fits : op.Fits s.log) : Outboxed outside c start (op.after outside c s)
  | queue {s : Solo ω} (run : Outboxed outside c start s) (queue : DeliveryQueue) :
    Outboxed outside c start { s with memory := { s.memory with queue } }

/-- Records are faithful to what they were at first, and so are events. -/
structure Coherent (old : MessageStore) (s : Solo ω) : Prop where
  rows : ∀ x, Option.Rel Message.Faithful (origin old s.log x) (s.memory.messages.find? x)
  events : ∀ e ∈ enqueued s.log, ∃ r, origin old s.log e.id = some r ∧ e = .ofMessage r

/-- A queued event is that of the record that is stored. -/
theorem Coherent.stored (coherent : Coherent old s) (queued : e ∈ enqueued s.log) :
    ∃ r₀ r, origin old s.log e.id = some r₀ ∧ s.memory.messages.find? e.id = some r ∧
      r₀.Faithful r ∧ e = .ofMessage r := by
  obtain ⟨r₀, first, eq⟩ := coherent.events e queued
  have rel := coherent.rows e.id
  rw [first] at rel
  generalize found : s.memory.messages.find? e.id = row at rel
  cases rel with
  | some faithful => exact ⟨r₀, _, first, rfl, faithful, eq.trans faithful.ofMessage_eq.symm⟩

/-- **Every operation keeps records and events coherent.** -/
theorem Coherent.next (coherent : Coherent old s)
    (tended : Tended s.memory.messages t.memory.messages calls) (log : t.log = calls ++ s.log) :
    Coherent old t := by
  have origins (x : MessageId) : origin old t.log x =
      (old.find? x).or ((created? calls x).or (created? s.log x)) := by
    rw [origin, log, created?_append]
  have kept {x : MessageId} {r : Message} (found : s.memory.messages.find? x = some r) :
      origin old t.log x = origin old s.log x := by
    rw [origins, tended.fresh x r found, Option.none_or, origin]
  have rows (x : MessageId) :
      Option.Rel Message.Faithful (origin old t.log x) (t.memory.messages.find? x) := by
    have before := coherent.rows x
    have step := tended.rows x
    rw [origin] at step
    cases found : s.memory.messages.find? x with
    | none =>
      rw [found] at before step
      have absent : origin old s.log x = none := by
        generalize origin old s.log x = first at before
        cases before
        rfl
      obtain ⟨new, unmade⟩ := Option.or_eq_none_iff.1 absent
      rwa [origins, new, unmade, Option.or_none]
    | some r =>
      rw [found, Option.some_or] at step
      rw [found] at before
      rw [kept found]
      exact rel_trans before step
  refine ⟨rows, fun e he => ?_⟩
  rw [log, enqueued_append, List.mem_append] at he
  rcases he with he | he
  · obtain ⟨r, found, eq⟩ := tended.events e he
    have rel := rows e.id
    rw [found] at rel
    generalize origin old t.log e.id = first at rel
    cases rel with
    | some faithful => exact ⟨_, rfl, eq.trans faithful.ofMessage_eq⟩
  · obtain ⟨r₀, r, first, found, -, -⟩ := coherent.stored he
    rw [kept found]
    exact coherent.events e he

/-- What an operation that may be begun does, with all of its calls. -/
theorem Coherent.exists_tended (coherent : Coherent old s)
    (outside : (c : Call) → ω → c.Answer × ω) (c : GatewayConfig) {op : Operation}
    (fits : op.Fits s.log) : ∃ calls, (op.after outside c s).log = calls ++ s.log ∧
      Tended s.memory.messages (op.after outside c s).memory.messages calls := by
  obtain ⟨t, operated, memory, log⟩ := op.exists_operated outside c s
  refine ⟨t.log, log, ?_⟩
  rw [memory]
  cases operated with
  | submit submitted => exact submitted.tended
  | send course => exact course.tended_of_unnamed fits
  | giveUp gaveUp => exact gaveUp.tended (List.forall_mem_nil _)
  | sweep swept => exact swept.tended
  | process processed =>
    obtain ⟨r₀, r, -, found, -, eq⟩ := coherent.stored fits
    subst eq
    exact processed.tended found

theorem Outboxed.coherent {w : ω} (run : Outboxed outside c ⟨m, w, []⟩ s) :
    Coherent m.messages s := by
  -- induction on the operations; what becomes of the queue in between matters to nothing
  induction run with
  | start =>
    refine ⟨fun x => ?_, ?_⟩
    · rw [origin]
      exact (Option.or_none (o := m.messages.find? x)).symm ▸ rel_refl _
    · rintro e ⟨⟩
  | operation run fits ih =>
    obtain ⟨calls, log, tended⟩ := ih.exists_tended outside c fits
    exact ih.next tended log
  | queue run queue ih => exact ⟨ih.rows, ih.events⟩

/-- **What was submitted is what is sent.** However submissions, new sends, sweeps, workers and
those who give messages up come in turn, and whatever becomes of the queue in between, the record
of a queued event is stored and says what the event says. A worker that deals with the event
transmits nothing but the text that the record had at first, for the address that the destination
of the record resolves to; and it does so only if the record is that of a text. -/
theorem transmits_origin (outside : (c : Call) → ω → c.Answer × ω) (c : GatewayConfig) (m : Memory)
    (w : ω) {s : Solo ω} (run : Outboxed outside c ⟨m, w, []⟩ s) {e : QueueEvent}
    (queued : e ∈ enqueued s.log) : ∃ r₀ r, origin m.messages s.log e.id = some r₀ ∧
      s.memory.messages.find? e.id = some r ∧ r₀.Faithful r ∧
      r.owner = e.owner ∧ r.recipient = e.recipient ∧ r.kind.name = e.kind ∧ r.payload = e.text ∧
      ∃ calls, ((Operation.process e).after outside c s).log = calls ++ s.log ∧
        ∀ i address o a, ⟨.transmit i address o, a⟩ ∈ calls →
          r₀.kind = .text ∧ i = r₀.owner ∧ o = .text r₀.payload ∧
          ∃ calls', calls' <:+: calls ∧
            (resolve c.resolver r₀.owner r₀.recipient).Made calls' (.done (.ok address)) := by
  obtain ⟨r₀, r, first, found, faithful, eq⟩ := run.coherent.stored queued
  obtain ⟨u, operated, -, log⟩ := (Operation.process e).exists_operated outside c s
  have told : r.owner = e.owner ∧ r.recipient = e.recipient ∧ r.kind.name = e.kind ∧
      r.payload = e.text := by
    rw [eq, QueueEvent.recipient_ofMessage, QueueEvent.text_ofMessage]
    exact ⟨rfl, rfl, rfl, rfl⟩
  refine ⟨r₀, r, first, found, faithful, told.1, told.2.1, told.2.2.1, told.2.2.2, u.log, log, ?_⟩
  intro i address o a transmits
  cases operated with
  | process processed =>
    rw [eq] at processed
    obtain ⟨kind, owner, text, calls', within, made⟩ := processed.eq_of_transmit transmits
    rw [faithful.owner, faithful.recipient] at made
    rw [faithful.payload] at text
    exact ⟨faithful.kind.symm.trans kind, owner.trans faithful.owner, text, calls', within, made⟩

/-- A text that was submitted is queued, and a worker transmits nothing else. -/
theorem transmits_origin_sample :
    let submit := Operation.submit ⟨⟨"A"⟩, "1@g.us", "text", "hi"⟩
    let s := submit.after Sample.surroundings {} ⟨Sample.memory, 0, []⟩
    let e := QueueEvent.make ⟨0⟩ ⟨"A"⟩ "text" "1@g.us" "hi" ⟨0, 0⟩
    let process := Operation.process e
    e ∈ enqueued s.log ∧ attempts (process.after Sample.surroundings {} s).log = [some ⟨0⟩] ∧
      ∃ calls, (process.after Sample.surroundings {} s).log = calls ++ s.log ∧
        ∀ i address o a, ⟨.transmit i address o, a⟩ ∈ calls → o = .text "hi" := by
  intro submit s e process
  have queued : e ∈ enqueued s.log := List.mem_singleton.2 rfl
  have run : Outboxed Sample.surroundings {} ⟨Sample.memory, 0, []⟩ s :=
    Outboxed.start.operation (show submit.Fits [] from trivial)
  obtain ⟨r₀, r, -, -, faithful, -, -, -, payload, calls, log, transmits⟩ :=
    transmits_origin Sample.surroundings {} Sample.memory 0 run queued
  refine ⟨queued, by decide, calls, log, fun i address o a h => ?_⟩
  obtain ⟨-, -, text, -⟩ := transmits i address o a h
  rw [text, ← faithful.payload, payload]
  rfl

end Delivery

end MessageGateway
