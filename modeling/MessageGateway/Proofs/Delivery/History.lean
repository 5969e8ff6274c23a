import MessageGateway.Proofs.Calls
import MessageGateway.Proofs.Interleaving
import Mathlib.Data.List.Infix

/-!
# The history of the message store

Parties share a message store; whatever else they call may answer in any way. The log of their
calls tells what was stored at every moment of a run, who had looked a record up by then, and which
messages were transmitted.

## Main definitions

* `MessageStatus.Advances`, `Message.Continues`: the moves of a delivery, and a record that is a
  later form of another one
* `Delivery.service`: the message store answers its calls, and anything may come of other calls
* `Delivery.row`: the record of a name at the moment of a log
* `Delivery.Looked`, `Delivery.Over`: a party had looked a record up, and a delivery was over
* `Delivery.transmissions`: the parties that transmitted a message

## Main results

* `Delivery.service_cases`: all that a call can do to the message store
* `Delivery.exists_write`: a record that differs from an earlier one was stored in between
-/

namespace MessageGateway

/-! ## How records move -/

/-- The moves of a delivery: it may stay where it is, begin, or come to an end. -/
inductive MessageStatus.Advances : MessageStatus → MessageStatus → Prop
  | stay (s : MessageStatus) : Advances s s
  | begin : Advances .queued .sending
  | finish {s e : MessageStatus} (hs : s.isTerminal = false) (he : e.isTerminal = true) :
      Advances s e

namespace MessageStatus

variable {s t u : MessageStatus}

theorem advances_of_allows (h : s.allows t = true) : s.Advances t := by
  cases s <;> cases t <;> first
    | exact .stay _
    | exact .begin
    | exact .finish rfl rfl
    | cases h

theorem Advances.trans (h : s.Advances t) (h' : t.Advances u) : s.Advances u := by
  cases h with
  | stay => exact h'
  | begin =>
    cases h' with
    | stay => exact .begin
    | finish _ hu => exact .finish rfl hu
  | finish hs ht =>
    cases h' with
    | stay => exact .finish hs ht
    | begin => cases ht
    | finish ht' hu => exact .finish hs hu

/-- A delivery that is over stays as it is. -/
theorem Advances.eq_of_isTerminal (h : s.Advances t) (hs : s.isTerminal = true) : t = s := by
  cases h with
  | stay => rfl
  | begin => cases hs
  | finish hs' => simp [hs] at hs'

end MessageStatus

/-- The records are of one message: everything but payload, status and the time of the last write
is the same. -/
structure Message.Same (a b : Message) : Prop where
  id : b.id = a.id
  owner : b.owner = a.owner
  recipient : b.recipient = a.recipient
  kind : b.kind = a.kind
  created : b.created = a.created

/-- The second record is a later form of the first. -/
structure Message.Continues (a b : Message) : Prop extends Message.Same a b where
  advances : a.status.Advances b.status

namespace Message

variable {a b c : Message}

theorem Same.refl (a : Message) : a.Same a := ⟨rfl, rfl, rfl, rfl, rfl⟩

theorem Same.symm (h : a.Same b) : b.Same a :=
  ⟨h.id.symm, h.owner.symm, h.recipient.symm, h.kind.symm, h.created.symm⟩

theorem Same.trans (h : a.Same b) (h' : b.Same c) : a.Same c :=
  ⟨h'.id.trans h.id, h'.owner.trans h.owner, h'.recipient.trans h.recipient,
    h'.kind.trans h.kind, h'.created.trans h.created⟩

theorem Continues.refl (a : Message) : a.Continues a := ⟨.refl a, .stay _⟩

theorem Continues.trans (h : a.Continues b) (h' : b.Continues c) : a.Continues c :=
  ⟨h.toSame.trans h'.toSame, h.advances.trans h'.advances⟩

end Message

/-! ## What came of a call -/

namespace Entry

/-- The record that the call stored, if it stored one. -/
def written? : Entry → Option Message
  | ⟨_, .createMessage m, .ok _⟩ => some m
  | ⟨_, .updateMessage m, .ok _⟩ => some m
  | _ => none

/-- The message of which the call told its party what is stored. -/
def lookedUp? : Entry → Option MessageId
  | ⟨_, .findMessage x, _⟩ => some x
  | ⟨_, .createMessage m, _⟩ => some m.id
  | _ => none

/-- The call transmitted a message. -/
def isTransmission : Entry → Bool
  | ⟨_, .transmit .., .ok _⟩ => true
  | _ => false

theorem written?_of_not_isDeed {e : Entry} (h : e.call.isDeed = false) : e.written? = none := by
  unfold written?
  split <;> first | rfl | cases h

theorem isTransmission_of_call {e : Entry} (h : e.call.isTransmission = false) :
    e.isTransmission = false := by
  unfold isTransmission
  split <;> first | rfl | cases h

end Entry

namespace Delivery

/-- The message store answers its calls. Anything may come of any other call, and the rest of the
memory may change in any way, but the message store stays as it is. -/
def service : Service := fun m c a m' =>
  if c.ofMessages then m.answer? c = some (a, m') else m'.messages = m.messages

/-- The message store of a scene. -/
abbrev store (s : Scene) : MessageStore :=
  s.memory.messages

theorem answer?_of_service {m m' : Memory} {c : Call} {a : c.Answer} (h : service m c a m')
    (hc : c.ofMessages = true) : m.answer? c = some (a, m') := by
  simpa only [service, hc, if_true] using h

/-- A memory is such a service. -/
theorem service_of_answer? {m m' : Memory} {c : Call} {a : c.Answer}
    (h : m.answer? c = some (a, m')) : service m c a m' := by
  unfold service
  split
  · exact h
  · next other =>
    cases c with
    | updateInstance | createPayload | markPayload | finishCycle | enqueue =>
      simp only [Memory.answer?, Memory.written] at h
      split at h <;> cases h <;> rfl
    | _ => first | (cases h <;> rfl) | exact absurd rfl other

theorem service_findMessage {m m' : Memory} {x : MessageId} {a : (Call.findMessage x).Answer}
    (h : service m (.findMessage x) a m') : a = .ok (m.messages.find? x) ∧ m' = m := by
  cases answer?_of_service h rfl
  exact ⟨rfl, rfl⟩

theorem service_createMessage {m m' : Memory} {r : Message} {a : (Call.createMessage r).Answer}
    (h : service m (.createMessage r) a m') :
    (m.messages.create r = .ok m'.messages ∧ a = .ok r) ∨
      ∃ e, a = .error e ∧ m'.messages = m.messages := by
  have h := answer?_of_service h rfl
  cases hc : m.messages.create r with
  | ok s =>
    simp only [Memory.answer?, hc, Memory.written] at h
    cases h
    exact .inl ⟨rfl, rfl⟩
  | error e =>
    simp only [Memory.answer?, hc, Memory.written] at h
    cases h
    exact .inr ⟨e, rfl, rfl⟩

theorem service_updateMessage {m m' : Memory} {r : Message} {a : (Call.updateMessage r).Answer}
    (h : service m (.updateMessage r) a m') :
    (m.messages.update r = .ok m'.messages ∧ a = .ok ()) ∨
      ∃ e, m.messages.update r = .error e ∧ a = .error e ∧ m'.messages = m.messages := by
  have h := answer?_of_service h rfl
  cases hc : m.messages.update r with
  | ok s =>
    simp only [Memory.answer?, hc, Memory.written] at h
    cases h
    exact .inl ⟨rfl, rfl⟩
  | error e =>
    simp only [Memory.answer?, hc, Memory.written] at h
    cases h
    exact .inr ⟨e, rfl, rfl, rfl⟩

/-- **All that a call can do to the message store**: it stores one record, which is new or
overwrites one whose status allows it, or it changes nothing. -/
theorem service_cases {m m' : Memory} {c : Call} {a : c.Answer} (h : service m c a m')
    (p : Party) :
    (Entry.written? ⟨p, c, a⟩ = none ∧ m'.messages = m.messages) ∨
      ∃ r, Entry.written? ⟨p, c, a⟩ = some r ∧
        (∀ x, m'.messages.find? x = if x = r.id then some r else m.messages.find? x) ∧
        ∀ r₀, m.messages.find? r.id = some r₀ →
          c = .updateMessage r ∧ r₀.status.allows r.status = true := by
  cases c with
  | createMessage r =>
    obtain ⟨hs, rfl⟩ | ⟨e, rfl, eq⟩ := service_createMessage h
    · obtain ⟨absent, found⟩ := MessageStore.find?_of_create hs
      refine .inr ⟨r, rfl, found, fun r₀ hr₀ => ?_⟩
      rw [absent] at hr₀
      cases hr₀
    · exact .inl ⟨rfl, eq⟩
  | updateMessage r =>
    obtain ⟨hs, rfl⟩ | ⟨e, -, rfl, eq⟩ := service_updateMessage h
    · obtain ⟨⟨r₁, hr₁, allowed⟩, found⟩ := MessageStore.find?_of_update hs
      refine .inr ⟨r, rfl, found, fun r₀ hr₀ => ⟨rfl, ?_⟩⟩
      rw [hr₁] at hr₀
      cases hr₀
      exact allowed
    · exact .inl ⟨rfl, eq⟩
  | findMessage x => exact .inl ⟨rfl, by rw [(service_findMessage h).2]⟩
  | pendingMessages limit =>
    cases answer?_of_service h rfl
    exact .inl ⟨rfl, rfl⟩
  | messagesOf i =>
    cases answer?_of_service h rfl
    exact .inl ⟨rfl, rfl⟩
  | _ => exact .inl ⟨rfl, h⟩

/-! ## What a log tells -/

/-- The record of the name `x` at the moment of a log: the last one that was stored, or that of the
store `old` at the beginning. -/
def row (old : MessageStore) (x : MessageId) : List Entry → Option Message
  | [] => old.find? x
  | e :: log => (e.written?.filter fun m => m.id = x).or (row old x log)

/-- By the moment of a log the delivery of `x` was over. -/
def Over (old : MessageStore) (x : MessageId) (log : List Entry) : Prop :=
  ∃ m, row old x log = some m ∧ m.status.isTerminal = true

/-- By the moment of a log the party `p` had asked for the record of `x`, or tried to make it. -/
def Looked (x : MessageId) (p : Party) (log : List Entry) : Prop :=
  ∃ e ∈ log, e.party = p ∧ e.lookedUp? = some x

/-- The records that a party stored, last one first. -/
def writes (p : Party) (log : List Entry) : List Message :=
  (log.filter fun e => e.party = p).filterMap Entry.written?

/-- The message on which a party works: that of the record that it stored last. -/
def subject? (p : Party) (log : List Entry) : Option MessageId :=
  (writes p log).head?.map Message.id

/-- The parties that have transmitted the message `x`, once for each transmission, last one
first. -/
def transmissions (x : MessageId) : List Entry → List Party
  | [] => []
  | e :: log =>
    if e.isTransmission ∧ subject? e.party log = some x then e.party :: transmissions x log
    else transmissions x log

section Logs

variable {old : MessageStore} {x : MessageId} {p q : Party} {log earlier : List Entry} {e : Entry}

theorem Looked.mono (h : Looked x p earlier) (hl : earlier <:+ log) : Looked x p log := by
  obtain ⟨e, he, h⟩ := h
  exact ⟨e, hl.subset he, h⟩

theorem row_cons_of_none (h : e.written? = none) : row old x (e :: log) = row old x log := by
  simp [row, h]

theorem row_cons_of_some {m : Message} (h : e.written? = some m) :
    row old x (e :: log) = if x = m.id then some m else row old x log := by
  by_cases hx : x = m.id
  · simp [row, h, hx]
  · have hx' : m.id ≠ x := fun eq => hx eq.symm
    simp [row, h, hx, Option.filter, hx']

theorem writes_cons_of_ne (h : e.party ≠ p) : writes p (e :: log) = writes p log := by
  simp [writes, h]

theorem writes_cons_of_none (h : e.written? = none) : writes p (e :: log) = writes p log := by
  by_cases hp : e.party = p <;> simp [writes, hp, h]

theorem writes_cons_of_some {m : Message} (h : e.written? = some m) :
    writes e.party (e :: log) = m :: writes e.party log := by
  simp [writes, h]

theorem writes_mono (hl : earlier <:+ log) : writes p earlier <:+ writes p log :=
  (hl.filter _).filterMap _

theorem mem_transmissions_cons : p ∈ transmissions x (e :: log) ↔
    (e.isTransmission = true ∧ subject? p log = some x ∧ p = e.party) ∨
      p ∈ transmissions x log := by
  rw [transmissions]
  split
  · next sent =>
    rw [List.mem_cons]
    constructor
    · rintro (rfl | h)
      · exact .inl ⟨sent.1, sent.2, rfl⟩
      · exact .inr h
    · rintro (⟨-, -, rfl⟩ | h)
      · exact .inl rfl
      · exact .inr h
  · next notSent =>
    constructor
    · exact .inr
    · rintro (⟨transmits, subject, rfl⟩ | h)
      · exact absurd ⟨transmits, subject⟩ notSent
      · exact h

theorem mem_transmissions_of_cons_of_ne (hp : e.party ≠ p) (h : p ∈ transmissions x (e :: log)) :
    p ∈ transmissions x log := by
  obtain ⟨-, -, rfl⟩ | h := mem_transmissions_cons.1 h
  · exact absurd rfl hp
  · exact h

theorem mem_transmissions_of_cons_of_not_isTransmission (he : e.isTransmission = false)
    (h : p ∈ transmissions x (e :: log)) : p ∈ transmissions x log := by
  obtain ⟨transmits, -⟩ | h := mem_transmissions_cons.1 h
  · simp [he] at transmits
  · exact h

/-- What was transmitted stays transmitted. -/
theorem transmissions_mono (hl : earlier <:+ log) :
    transmissions x earlier ⊆ transmissions x log := by
  induction log with
  | nil => rw [List.suffix_nil.1 hl]; exact List.Subset.refl _
  | cons e log ih =>
    obtain rfl | hl := List.suffix_cons_iff.1 hl
    · exact List.Subset.refl _
    · intro p hp
      exact mem_transmissions_cons.2 (.inr (ih hl hp))

/-- **A record that differs from an earlier one was stored in between.** -/
theorem exists_write {r r' : Message} (hl : earlier <:+ log) (hr : row old x earlier = some r)
    (hr' : row old x log = some r') (ne : r ≠ r') :
    ∃ e before, e :: before <:+ log ∧ earlier <:+ before ∧ e.written? = some r' ∧ r'.id = x := by
  induction log with
  | nil =>
    rw [List.suffix_nil.1 hl, hr'] at hr
    exact absurd (Option.some.inj hr).symm ne
  | cons e log ih =>
    obtain rfl | hl := List.suffix_cons_iff.1 hl
    · rw [hr'] at hr
      exact absurd (Option.some.inj hr).symm ne
    · cases hw : e.written? with
      | none =>
        rw [row_cons_of_none hw] at hr'
        obtain ⟨d, before, hd, he, hw⟩ := ih hl hr'
        exact ⟨d, before, hd.trans (List.suffix_cons _ _), he, hw⟩
      | some m =>
        rw [row_cons_of_some hw] at hr'
        split at hr'
        · next named =>
          cases hr'
          exact ⟨e, log, List.suffix_rfl, hl, hw, named.symm⟩
        · obtain ⟨d, before, hd, he, hw⟩ := ih hl hr'
          exact ⟨d, before, hd.trans (List.suffix_cons _ _), he, hw⟩

/-- Between two moments with the same writes of a party, others have done all that was stored. -/
theorem party_ne_of_writes_eq (h : writes p log = writes p earlier) {before : List Entry}
    (hl : e :: before <:+ log) (he : earlier <:+ before) {m : Message} (hw : e.written? = some m) :
    e.party ≠ p := by
  rintro rfl
  -- the entry would be one more write of the party
  have before_le := (writes_mono (p := e.party) he).length_le
  have le_log := (writes_mono (p := e.party) hl).length_le
  rw [writes_cons_of_some hw, List.length_cons, h] at le_log
  omega

end Logs

end Delivery

end MessageGateway
