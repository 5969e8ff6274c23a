import MessageGateway.Proofs.Dispatch.Approach
import MessageGateway.Proofs.Dispatch.Conduct

/-!
# The course of a send alone

A send that runs alone on a memory takes one of five courses, and each of them tells all the calls
that matter: what is incomplete is refused without a call, what is over is handed back after one
look, an approach that ends with a refusal leaves the messages alone, and so does a new name that
is taken. In every other course the record is stored as being sent, its message is transmitted
once, and the end of the delivery is stored.

## Main definitions

* `Dispatch.Entered`: how the record of a delivery is stored as being sent
* `Dispatch.Delivered`: a delivery, from the record that is entered to its end
* `Dispatch.Course`: the courses of a send alone
* `Dispatch.GivenUp`: what giving a message up comes to

## Main results

* `Dispatch.ensures_course`: a send alone takes one of the courses
* `Dispatch.ensures_givenUp`: giving a message up, alone
-/

namespace MessageGateway

open Program Setting Conduct

variable {ω : Type} {outside : (c : Call) → ω → c.Answer × ω} {s t : Solo ω}

/-- The event that the queue took. -/
def Exchange.enqueued? : Exchange → Option QueueEvent
  | ⟨.enqueue e, .ok _⟩ => some e
  | _ => none

/-- No record was stored, nothing was transmitted, and no event was put into the queue. -/
structure Exchange.Idle (e : Exchange) : Prop where
  written : e.written? = none
  untransmitted : e.call.isTransmission = false
  enqueued : e.enqueued? = none

theorem Exchange.idle_of_isPreparation {c : Call} (h : c.isPreparation = true) (a : c.Answer) :
    Exchange.Idle ⟨c, a⟩ := by
  cases c <;> first | exact ⟨rfl, rfl, rfl⟩ | cases h

namespace Solo

/-! ## Single calls -/

/-- A call that the memory does not answer. -/
theorem ensures_outside {c : Call} (h : ∀ m, Memory.answer? c m = none) :
    (setting outside).Ensures (fun a t => t.memory = s.memory ∧ t.log = ⟨c, a⟩ :: s.log)
      (request c) s := by
  refine Dispatch.ensures_ask fun a t served => ?_
  obtain ⟨w, rfl⟩ := answer_of_none (h s.memory) served
  exact ⟨rfl, rfl⟩

/-- A call that the memory answers and that leaves it alone. -/
theorem ensures_read {c : Call} {a : c.Answer} (h : s.memory.answer? c = some (a, s.memory)) :
    (setting outside).Ensures
      (fun b t => b = a ∧ t.memory = s.memory ∧ t.log = ⟨c, a⟩ :: s.log) (request c) s := by
  refine Dispatch.ensures_ask fun b t served => ?_
  obtain ⟨rfl, rfl⟩ := answer_of_some h served
  exact ⟨rfl, rfl, rfl⟩

/-- The record `r` was stored by the call `e`, the last one. -/
structure Wrote (s : Solo ω) (r : Message) (e : Exchange) (t : Solo ω) : Prop where
  messages : ∀ x, t.memory.messages.find? x =
    if x = r.id then some r else s.memory.messages.find? x
  rest : t.memory = { s.memory with messages := t.memory.messages }
  log : t.log = e :: s.log

theorem ensures_create {r : Message} (absent : s.memory.messages.find? r.id = none) :
    (setting outside).Ensures
      (fun a t => a = .ok r ∧ Wrote s r ⟨.createMessage r, .ok r⟩ t) (createMessage r) s := by
  have taken : s.memory.messages.create r = .ok (s.memory.messages.insert r) := by
    simp [MessageStore.create, Table.contains, absent]
  have written : s.memory.answer? (.createMessage r) =
      some (.ok r, { s.memory with messages := s.memory.messages.insert r }) := by
    rw [Memory.answer?, taken]
    rfl
  refine Dispatch.ensures_ask fun a t served => ?_
  obtain ⟨rfl, rfl⟩ := answer_of_some written served
  exact ⟨rfl, (MessageStore.find?_of_create taken).2, rfl, rfl⟩

/-- A second record of one name is refused. -/
theorem ensures_create_taken {r r₀ : Message}
    (found : s.memory.messages.find? r.id = some r₀) : (setting outside).Ensures
      (fun a t => ∃ text, a = .error (.conflict text) ∧ t.memory = s.memory ∧
        t.log = ⟨.createMessage r, .error (.conflict text)⟩ :: s.log) (createMessage r) s := by
  let text := "message " ++ r.id.display ++ " already exists"
  have refused : s.memory.messages.create r = .error (.conflict text) := by
    simp [MessageStore.create, Table.contains, found, text]
  have unwritten : s.memory.answer? (.createMessage r) =
      some (.error (.conflict text), s.memory) := by
    rw [Memory.answer?, refused]
    rfl
  refine Dispatch.ensures_ask fun a t served => ?_
  obtain ⟨rfl, rfl⟩ := answer_of_some unwritten served
  exact ⟨text, rfl, rfl, rfl⟩

theorem ensures_update {r r₀ : Message} (found : s.memory.messages.find? r.id = some r₀)
    (allowed : r₀.status.allows r.status = true) : (setting outside).Ensures
      (fun a t => a = .ok () ∧ Wrote s r ⟨.updateMessage r, .ok ()⟩ t) (updateMessage r) s := by
  obtain ⟨messages, taken⟩ := MessageStore.exists_update_eq_ok found allowed
  have written : s.memory.answer? (.updateMessage r) =
      some (.ok (), { s.memory with messages }) := by
    rw [Memory.answer?, taken]
    rfl
  refine Dispatch.ensures_ask fun a t served => ?_
  obtain ⟨rfl, rfl⟩ := answer_of_some written served
  exact ⟨rfl, (MessageStore.find?_of_update taken).2, rfl, rfl⟩

end Solo

namespace Dispatch

/-! ## The delivery -/

/-- The record stored and its message transmitted: everything a send does after its approach. -/
def conclude (input : SendInput) (known : Option Message) (r : Address × Outbound) :
    ExceptT SendFailure Program Message := do
  let m ← store input known r.2
  deliver m input.owner r.1 r.2

theorem proceed_eq (c : GatewayConfig) (input : SendInput) (known : Option Message) :
    proceed c input known = approach c input >>= conclude input known := by
  simp only [proceed, approach, bind_assoc]
  rfl

/-- How a delivery ends when its transmission was answered like this. -/
def outcome : Except TransportError Unit → MessageStatus
  | .ok _ => .sent
  | .error _ => .failed

/-- What a send hands back when the transmission of its message, of which `r` is the record, was
answered like this. -/
def verdict (r : Message) : Except TransportError Unit → Except SendFailure Message
  | .ok _ => .ok r
  | .error e => .error ⟨.transmission e, some r⟩

theorem isTerminal_outcome (a : Except TransportError Unit) : (outcome a).isTerminal = true := by
  cases a <;> rfl

/-- The record `r` is stored as being sent, with the summary of what is to be transmitted: it is a
later form of a record in the store, or a new one. -/
inductive Entered (input : SendInput) (o : Outbound) (store : MessageStore) (r : Message) :
    Trace → Prop
  | again {r₀ : Message} {time : Timestamp} (key : input.id = some r₀.id)
      (found : store.find? r₀.id = some r₀) (notOver : r₀.status.isTerminal = false)
      (eq : r = { r₀ with payload := o.summary, status := .sending, updated := time }) :
    Entered input o store r [⟨.updateMessage r, .ok ()⟩, ⟨.now, time⟩]
  | anew {x : MessageId} {time : Timestamp} (key : input.id = some x)
      (absent : store.find? x = none)
      (eq : r = .make x input.owner input.recipient input.content.kind o.summary .sending time) :
    Entered input o store r [⟨.createMessage r, .ok r⟩, ⟨.now, time⟩]
  | named {x : MessageId} {time : Timestamp} (key : input.id = none)
      (absent : store.find? x = none)
      (eq : r = .make x input.owner input.recipient input.content.kind o.summary .sending time) :
    Entered input o store r [⟨.createMessage r, .ok r⟩, ⟨.newMessageId, x⟩, ⟨.now, time⟩]

/-- The message of the record `r`, which is stored as being sent, is transmitted and answered with
`a`, and `r'` is stored, which tells so. -/
structure Transmitted (i : InstanceId) (address : Address) (o : Outbound) (s : Solo ω)
    (r : Message) (a : Except TransportError Unit) (r' : Message) (t : Solo ω) : Prop where
  messages : ∀ x, t.memory.messages.find? x =
    if x = r.id then some r' else s.memory.messages.find? x
  rest : t.memory = { s.memory with messages := t.memory.messages }
  calls : ∃ time, r' = { r with status := outcome a, updated := time } ∧
    t.log = [⟨.updateMessage r', .ok ()⟩, ⟨.now, time⟩, ⟨.transmit i address o, a⟩] ++ s.log

/-- A delivery on the memory of `s`: the record `r` is stored as being sent, and its message is
transmitted. -/
structure Delivered (input : SendInput) (address : Address) (o : Outbound) (s : Solo ω)
    (r : Message) (a : Except TransportError Unit) (r' : Message) (t : Solo ω) : Prop where
  messages : ∀ x, t.memory.messages.find? x =
    if x = r.id then some r' else s.memory.messages.find? x
  rest : t.memory = { s.memory with messages := t.memory.messages }
  calls : ∃ entry time, Entered input o s.memory.messages r entry ∧
    r' = { r with status := outcome a, updated := time } ∧
    t.log = [⟨.updateMessage r', .ok ()⟩, ⟨.now, time⟩, ⟨.transmit input.owner address o, a⟩] ++
      (entry ++ s.log)

variable {c : GatewayConfig} {input : SendInput} {m : Memory} {o : Outbound} {address : Address}
  {r r' : Message} {messages : MessageStore} {entry : Trace}

theorem Entered.status_eq (h : Entered input o messages r entry) : r.status = .sending := by
  cases h with
  | again _ _ _ eq => rw [eq]
  | anew _ _ eq => rw [eq]; rfl
  | named _ _ eq => rw [eq]; rfl

/-- The record has the name that the send was given. -/
theorem Entered.eq_of_key (h : Entered input o messages r entry) {y : MessageId}
    (key : input.id = some y) : r.id = y := by
  cases h with
  | again key' _ _ eq =>
    rw [key] at key'
    rw [eq]
    exact (Option.some.inj key').symm
  | anew key' _ eq =>
    rw [key] at key'
    rw [eq]
    exact (Option.some.inj key').symm
  | named key' =>
    rw [key] at key'
    cases key'

/-- The record that a send continues is entered in a later form. -/
theorem Entered.of_found (h : Entered input o messages r entry) {r₀ : Message}
    (key : input.id = some r₀.id) (found : messages.find? r₀.id = some r₀) :
    ∃ time, r = { r₀ with payload := o.summary, status := .sending, updated := time } ∧
      entry = [⟨.updateMessage r, .ok ()⟩, ⟨.now, time⟩] := by
  cases h with
  | @again r₁ time key' found' _ eq =>
    have named : r₀.id = r₁.id := Option.some.inj (key.symm.trans key')
    rw [← named, found] at found'
    cases found'
    exact ⟨time, eq, rfl⟩
  | anew key' absent =>
    rw [key] at key'
    cases key'
    rw [found] at absent
    cases absent
  | named key' =>
    rw [key] at key'
    cases key'

/-- No delivery that is over is begun again. -/
theorem Entered.notOver (h : Entered input o messages r entry) {r₀ : Message}
    (found : messages.find? r.id = some r₀) : r₀.status.isTerminal = false := by
  cases h with
  | again _ found' notOver eq =>
    rw [eq] at found
    rw [found'] at found
    cases found
    exact notOver
  | anew _ absent eq =>
    rw [eq] at found
    rw [Message.make, absent] at found
    cases found
  | named _ absent eq =>
    rw [eq] at found
    rw [Message.make, absent] at found
    cases found

theorem ensures_settle_sending (sending : r.status = .sending)
    (stored : s.memory.messages.find? r.id = some r) (a : Except TransportError Unit) :
    (Solo.setting outside).Ensures
      (fun r' t => ∃ time, r' = { r with status := outcome a, updated := time } ∧
        (∀ x, t.memory.messages.find? x =
          if x = r.id then some r' else s.memory.messages.find? x) ∧
        t.memory = { s.memory with messages := t.memory.messages } ∧
        t.log = [⟨.updateMessage r', .ok ()⟩, ⟨.now, time⟩] ++ s.log)
      (settle r (outcome a)) s := by
  have clock : (Solo.setting outside).Ensures _ now s := Solo.ensures_outside fun _ => rfl
  refine clock.bind fun time t _ hQ => ?_
  obtain ⟨memory, log⟩ := hQ t rfl
  have allowed : r.status.allows (outcome a) = true := by
    rw [sending]
    exact MessageStatus.allows_of_isTerminal rfl (isTerminal_outcome a)
  simp only [Message.transition, allowed, if_true]
  let r' : Message := { r with status := outcome a, updated := time }
  have found : t.memory.messages.find? r'.id = some r := by
    rw [memory]
    exact stored
  show (Solo.setting outside).Ensures _ (do
    let _ ← bestEffort (updateMessage r')
    return r') t
  refine (Solo.ensures_update found allowed).bindBestEffort fun _ u _ hQ => ?_
  obtain ⟨-, wrote⟩ := hQ u rfl
  rintro _ rfl
  refine ⟨time, rfl, fun x => ?_, ?_, ?_⟩
  · rw [wrote.messages, memory]
  · rw [wrote.rest, memory]
  · rw [wrote.log, log]
    rfl

theorem ensures_deliver_sending (i : InstanceId) (address : Address) (o : Outbound)
    (sending : r.status = .sending) (stored : s.memory.messages.find? r.id = some r) :
    (Solo.setting outside).Ensures
      (fun res t => ∃ a r', res = verdict r' a ∧ Transmitted i address o s r a r' t)
      (deliver r i address o).run s := by
  have transmitted : (Solo.setting outside).Ensures _ (transmit i address o) s :=
    Solo.ensures_outside fun _ => rfl
  refine transmitted.bindLift fun a t _ hQ => ?_
  obtain ⟨memory, log⟩ := hQ t rfl
  have settled : (Solo.setting outside).Ensures
      (fun r' u => Transmitted i address o s r a r' u) (settle r (outcome a)) t := by
    rw [← memory] at stored
    refine (ensures_settle_sending sending stored a).mono ?_
    rintro r' u - ⟨time, rfl, messages, rest, log'⟩
    rw [memory] at messages rest
    refine ⟨messages, rest, time, rfl, ?_⟩
    rw [log', log]
    rfl
  cases a with
  | ok _ => exact settled.map fun r' u _ hQ => ⟨.ok (), r', rfl, hQ⟩
  | error e =>
    refine settled.bindLift fun r' u _ hQ => ?_
    rintro _ rfl
    exact ⟨.error e, r', rfl, hQ u rfl⟩

/-- The record `r` was entered on the memory of `s`. -/
structure Opened (input : SendInput) (o : Outbound) (s : Solo ω) (r : Message) (t : Solo ω) :
    Prop where
  messages : ∀ x, t.memory.messages.find? x =
    if x = r.id then some r else s.memory.messages.find? x
  rest : t.memory = { s.memory with messages := t.memory.messages }
  calls : ∃ entry, Entered input o s.memory.messages r entry ∧ t.log = entry ++ s.log

/-- The name that was drawn for the record is taken. -/
structure Clashed (input : SendInput) (s : Solo ω) (text : String) (t : Solo ω) : Prop where
  key : input.id = none
  memory : t.memory = s.memory
  calls : ∃ r time, s.memory.messages.contains r.id = true ∧ t.log =
    [⟨.createMessage r, .error (.conflict text)⟩, ⟨.newMessageId, r.id⟩, ⟨.now, time⟩] ++ s.log

/-- A record that was entered and then transmitted was delivered. -/
theorem Opened.delivered {a : Except TransportError Unit} {u : Solo ω}
    (opened : Opened input o s r t)
    (transmitted : Transmitted input.owner address o t r a r' u) :
    Delivered input address o s r a r' u := by
  obtain ⟨entry, entered, log⟩ := opened.calls
  obtain ⟨time, ended, log'⟩ := transmitted.calls
  refine ⟨fun x => ?_, ?_, entry, time, entered, ended, ?_⟩
  · rw [transmitted.messages, opened.messages]
    by_cases hx : x = r.id
    · rw [if_pos hx, if_pos hx]
    · rw [if_neg hx, if_neg hx, if_neg hx]
  · rw [transmitted.rest, opened.rest]
  · rw [log', log]

/-- What a send knows of the record that it continues. -/
structure Known (input : SendInput) (known : Option Message) (store : MessageStore) : Prop where
  found : ∀ r ∈ known, input.id = some r.id ∧ store.find? r.id = some r ∧
    r.status.isTerminal = false
  absent : known = none → ∀ x, input.id = some x → store.find? x = none

theorem ensures_store_opened {known : Option Message} (h : Known input known s.memory.messages)
    (o : Outbound) : (Solo.setting outside).Ensures
      (fun res t => (∃ r, res = .ok r ∧ Opened input o s r t) ∨
        ∃ text, res = .error (.ofStore (.conflict text)) ∧ Clashed input s text t)
      (store input known o).run s := by
  have clock : (Solo.setting outside).Ensures _ now s := Solo.ensures_outside fun _ => rfl
  refine clock.bindLift fun time t _ hQ => ?_
  obtain ⟨memory, log⟩ := hQ t rfl
  cases known with
  | some r₀ =>
    obtain ⟨key, found, notOver⟩ := h.found r₀ rfl
    have allowed := MessageStatus.allows_sending notOver
    simp only [Message.transition, allowed, if_true]
    let r : Message := { r₀ with payload := o.summary, status := .sending, updated := time }
    show (Solo.setting outside).Ensures _ (do
      orFail .ofStore (updateMessage r)
      return r : ExceptT SendFailure Program Message).run t
    have found' : t.memory.messages.find? r.id = some r₀ := by
      rw [memory]
      exact found
    refine (Solo.ensures_update found' allowed).bindOrFail (fun _ u _ hQ => ?_) fun e u _ hQ => ?_
    · obtain ⟨-, wrote⟩ := hQ u rfl
      rintro _ rfl
      refine .inl ⟨r, rfl, ?_, ?_, _, .again key found notOver rfl, ?_⟩
      · rw [← memory]
        exact wrote.messages
      · rw [wrote.rest, memory]
      · rw [wrote.log, log]
        rfl
    · cases hQ.1
  | none =>
    have created (x : MessageId) (names : Trace) (u : Solo ω) (memory : u.memory = s.memory)
        (log : u.log = names ++ s.log) (absent : s.memory.messages.find? x = none)
        (entered : ∀ r, r = .make x input.owner input.recipient input.content.kind o.summary
          .sending time →
          Entered input o s.memory.messages r (⟨.createMessage r, .ok r⟩ :: names)) :
        (Solo.setting outside).Ensures
          (fun res t => (∃ r, res = .ok r ∧ Opened input o s r t) ∨
            ∃ text, res = .error (.ofStore (.conflict text)) ∧ Clashed input s text t)
          (orFail .ofStore (createMessage (.make x input.owner input.recipient input.content.kind
            o.summary .sending time)) : ExceptT SendFailure Program Message).run u := by
      let r : Message := .make x input.owner input.recipient input.content.kind o.summary
        .sending time
      have absent' : u.memory.messages.find? r.id = none := by
        rw [memory]
        exact absent
      refine Ensures.orFail (Solo.ensures_create absent') (fun r' v _ hQ => ?_) fun e v _ hQ => ?_
      · obtain ⟨eq, wrote⟩ := hQ
        cases eq
        refine .inl ⟨r, rfl, ?_, ?_, _, entered r rfl, ?_⟩
        · rw [← memory]
          exact wrote.messages
        · rw [wrote.rest, memory]
        · rw [wrote.log, log]
          rfl
      · cases hQ.1
    dsimp only
    cases key : input.id with
    | some x =>
      have absent := h.absent rfl x key
      exact created x _ t memory log absent fun r eq => .anew key absent eq
    | none =>
      have name : (Solo.setting outside).Ensures _ newMessageId t :=
        Solo.ensures_outside fun _ => rfl
      refine name.bindLift fun x u _ hQ => ?_
      obtain ⟨memory', log'⟩ := hQ u rfl
      rw [memory] at memory'
      rw [log] at log'
      cases found : s.memory.messages.find? x with
      | none => exact created x _ u memory' log' found fun r eq => .named key found eq
      | some r₀ =>
        let r : Message := .make x input.owner input.recipient input.content.kind o.summary
          .sending time
        have found' : u.memory.messages.find? r.id = some r₀ := by
          rw [memory']
          exact found
        refine Ensures.orFail (Solo.ensures_create_taken found') (fun r' v _ hQ => ?_)
          fun e v _ hQ => ?_
        · obtain ⟨_, eq, -⟩ := hQ
          cases eq
        · obtain ⟨text, eq, memory'', log''⟩ := hQ
          cases eq
          refine .inr ⟨text, rfl, key, memory''.trans memory', r, time, ?_, ?_⟩
          · rw [← memory', Table.contains, found']
            rfl
          · rw [log'', log']
            rfl

/-- **After its approach a send delivers**, unless the name that it draws is taken. -/
theorem ensures_conclude {known : Option Message} (h : Known input known s.memory.messages)
    (address : Address) (o : Outbound) : (Solo.setting outside).Ensures
      (fun res t => (∃ r a r', res = verdict r' a ∧ Delivered input address o s r a r' t) ∨
        ∃ text, res = .error (.ofStore (.conflict text)) ∧ Clashed input s text t)
      (conclude input known (address, o)).run s := by
  refine (ensures_store_opened h o).bindExcept (fun r t _ hQ => ?_) fun failure t _ hQ => ?_
  · obtain ⟨r', eq, opened⟩ | ⟨_, eq, -⟩ := hQ t rfl
    · cases eq
      obtain ⟨entry, entered, -⟩ := opened.calls
      have stored : t.memory.messages.find? r.id = some r := by
        rw [opened.messages]
        exact if_pos rfl
      refine (ensures_deliver_sending input.owner address o entered.status_eq stored).mono ?_
      rintro res u - ⟨a, r', rfl, transmitted⟩
      exact .inl ⟨r, a, r', rfl, opened.delivered transmitted⟩
    · cases eq
  · obtain ⟨_, eq, -⟩ | clashed := hQ
    · cases eq
    · exact .inr clashed

/-! ## The whole send -/

/-- A send for the input is not turned down at once: the input is complete, and no delivery that is
over has its name. -/
structure Due (input : SendInput) (m : Memory) : Prop where
  complete : (input.owner.isBlank || input.recipient.isEmpty) = false
  notOver : ∀ x r, input.id = some x → m.messages.find? x = some r → r.status.isTerminal = false

theorem Known.due {known : Option Message} (h : Known input known m.messages)
    (complete : (input.owner.isBlank || input.recipient.isEmpty) = false) : Due input m := by
  refine ⟨complete, fun x r key found => ?_⟩
  cases known with
  | none =>
    rw [h.absent rfl x key] at found
    cases found
  | some r₀ =>
    obtain ⟨key', found', notOver⟩ := h.found r₀ rfl
    rw [key'] at key
    cases key
    rw [found'] at found
    cases found
    exact notOver

/-- The courses of a send alone on the memory `m`, of which all the calls are in the log at its
end. -/
inductive Course (c : GatewayConfig) (input : SendInput) (m : Memory) :
    Except SendFailure Message → Solo ω → Prop
  | incomplete {t : Solo ω} (incomplete : (input.owner.isBlank || input.recipient.isEmpty) = true)
      (memory : t.memory = m) (calls : t.log = []) :
    Course c input m (.error (.of (.invalidPayload "instance_id and to are required"))) t
  | ended {x : MessageId} {r : Message} {t : Solo ω} (key : input.id = some x)
      (found : m.messages.find? x = some r) (ended : r.status.isTerminal = true)
      (memory : t.memory = m) (calls : t.log = [⟨.findMessage x, .ok (some r)⟩]) :
    Course c input m (.ok r) t
  | refused {e : DispatchError} {t : Solo ω} (due : Due input m) (spared : Spared input.owner m t)
      (idle : ∀ e ∈ t.log, e.Idle) (refusal : Refusal c input m t.log e) :
    Course c input m (.error (.of e)) t
  | clashed {text : String} {u t : Solo ω} (due : Due input m) (memory : u.memory = m)
      (idle : ∀ e ∈ u.log, e.Idle) (clashed : Clashed input u text t) :
    Course c input m (.error (.ofStore (.conflict text))) t
  | delivered {u t : Solo ω} {address : Address} {o : Outbound} {r r' : Message}
      {a : Except TransportError Unit} {res : Except SendFailure Message}
      (result : res = verdict r' a) (due : Due input m) (memory : u.memory = m)
      (idle : ∀ e ∈ u.log, e.Idle)
      (approved : Approved c input m u.log address o)
      (delivered : Delivered input address o u r a r' t) :
    Course c input m res t

theorem approach_only {P : Call → Prop} (find : P (.findInstance input.owner))
    (session : P (.openSession input.owner)) (update : ∀ r, P (.updateInstance r))
    (prepares : ∀ c, c.isPreparation = true → P c) : (approach c input).run.Only P := by
  refine Only.bindExcept (checkInstance_only find) fun _ => ?_
  refine Only.bindExcept (checkSession_only session find update) fun _ => ?_
  exact (prepare_only c input).mono prepares

/-- An approach stores nothing and transmits nothing. -/
theorem ensures_approach_idle (idle : ∀ e ∈ s.log, e.Idle) :
    (Solo.setting outside).Ensures (fun _ t => ∀ e ∈ t.log, e.Idle) (approach c input).run s := by
  have only : (approach c input).run.Only fun c => ∀ a, Exchange.Idle ⟨c, a⟩ :=
    approach_only (fun _ => ⟨rfl, rfl, rfl⟩) (fun _ => ⟨rfl, rfl, rfl⟩)
      (fun _ _ => ⟨rfl, rfl, rfl⟩) fun _ h => Exchange.idle_of_isPreparation h
  refine (Solo.ensures_made _).mono ?_
  rintro res t - ⟨calls, log, made⟩ e he
  rw [log] at he
  rcases List.mem_append.1 he with he | he
  · exact made.only only e he e.answer
  · exact idle e he

/-- The look for the record that a send continues. -/
theorem ensures_existing_known (input : SendInput) (m : Memory) (w : ω) :
    (Solo.setting outside).Ensures
      (fun res t => t.memory = m ∧ (∀ e ∈ t.log, e.Idle) ∧ ∃ known, res = .ok known ∧
        (∀ r ∈ known, input.id = some r.id ∧ m.messages.find? r.id = some r ∧
          t.log = [⟨.findMessage r.id, .ok (some r)⟩]) ∧
        (known = none → ∀ x, input.id = some x → m.messages.find? x = none))
      (existing input.id).run ⟨m, w, []⟩ := by
  cases key : input.id with
  | none =>
    rintro _ rfl
    refine ⟨rfl, List.forall_mem_nil _, none, rfl, ?_, ?_⟩
    · rintro r ⟨⟩
    · rintro - x ⟨⟩
  | some x =>
    have find : (Solo.setting outside).Ensures _ (findMessage x) ⟨m, w, []⟩ :=
      Solo.ensures_read rfl
    refine Ensures.orFail find (fun known t _ hQ => ?_) fun e t _ hQ => ?_
    · obtain ⟨eq, memory, log⟩ := hQ
      cases eq
      refine ⟨memory, ?_, _, rfl, fun r found => ?_, fun absent y eq => ?_⟩
      · rw [log]
        exact List.forall_mem_singleton.2 ⟨rfl, rfl, rfl⟩
      · have found : m.messages.find? x = some r := found
        obtain rfl := Table.key_of_find? found
        refine ⟨rfl, found, ?_⟩
        rw [log]
        show [Exchange.mk (.findMessage r.id) (.ok (m.messages.find? r.id))] = _
        rw [found]
      · cases eq
        exact absent
    · cases hQ.1

/-- **A send alone takes one of the courses.** -/
theorem ensures_course (c : GatewayConfig) (input : SendInput) (m : Memory) (w : ω) :
    (Solo.setting outside).Ensures (Course c input m) (send c input) ⟨m, w, []⟩ := by
  unfold send
  split
  · next incomplete =>
    rintro _ rfl
    exact .incomplete incomplete rfl rfl
  · next complete =>
    have complete := Bool.not_eq_true _ ▸ complete
    have existing : (Solo.setting outside).Ensures _ (existing input.id).run ⟨m, w, []⟩ :=
      ensures_existing_known input m w
    refine existing.bindExcept (fun known t _ hQ => ?_) fun failure t _ hQ => ?_
    · obtain ⟨memory, idle, _, ⟨⟩, found, absent⟩ := hQ t rfl
      split
      · next r hr =>
        obtain ⟨hr, ended⟩ := Option.filter_eq_some_iff.1 hr
        obtain ⟨key, stored, log⟩ := found r hr
        rintro _ rfl
        exact .ended key stored ended memory log
      · next notOver =>
        have known' : Known input known m.messages := by
          refine ⟨fun r hr => ⟨(found r hr).1, (found r hr).2.1, ?_⟩, absent⟩
          exact notOver_of_filter notOver r hr
        have due := known'.due complete
        rw [proceed_eq]
        refine ((ensures_approach c input t).and (ensures_approach_idle idle)).bindExcept
          (fun r u _ hQ => ?_) fun failure u _ hQ => ?_
        · obtain ⟨⟨memory', approved⟩, idle⟩ := hQ u rfl
          rw [memory] at memory' approved
          rw [← memory'] at known'
          refine (ensures_conclude known' r.1 r.2).mono fun res v _ concluded => ?_
          rcases concluded with ⟨r, a, r', rfl, delivered⟩ | ⟨text, rfl, clashed⟩
          · exact .delivered rfl due memory' idle approved delivered
          · exact .clashed due memory' idle clashed
        · obtain ⟨⟨spared, e, rfl, refusal⟩, idle⟩ := hQ
          rw [memory] at spared refusal
          exact .refused due spared idle refusal
    · obtain ⟨-, -, _, ⟨⟩, -⟩ := hQ

/-! ## Giving up -/

/-- What giving the message `x` up comes to: nothing when there is no record or its delivery is
over, and else a record that has failed. -/
inductive GivenUp (x : MessageId) (s : Solo ω) : Solo ω → Prop
  | kept {t : Solo ω}
      (ended : ∀ r, s.memory.messages.find? x = some r → r.status.isTerminal = true)
      (memory : t.memory = s.memory)
      (calls : t.log = ⟨.findMessage x, .ok (s.memory.messages.find? x)⟩ :: s.log) :
    GivenUp x s t
  | failed {r r' : Message} {time : Timestamp} {t : Solo ω}
      (found : s.memory.messages.find? x = some r) (notOver : r.status.isTerminal = false)
      (eq : r' = { r with status := .failed, updated := time })
      (messages : ∀ y, t.memory.messages.find? y =
        if y = x then some r' else s.memory.messages.find? y)
      (rest : t.memory = { s.memory with messages := t.memory.messages })
      (calls : t.log = [⟨.updateMessage r', .ok ()⟩, ⟨.now, time⟩,
        ⟨.findMessage x, .ok (some r)⟩] ++ s.log) :
    GivenUp x s t

theorem GivenUp.log_suffix {x : MessageId} (gaveUp : GivenUp x s t) : s.log <:+ t.log := by
  cases gaveUp with
  | kept _ _ calls => exact ⟨[_], calls.symm⟩
  | failed _ _ _ _ _ calls => exact ⟨_, calls.symm⟩

/-- A move that is allowed is made at the time of the clock. -/
theorem ensures_transition {next : MessageStatus} (allowed : r.status.allows next = true) :
    (Solo.setting outside).Ensures
      (fun res t => ∃ time, res = .ok { r with status := next, updated := time } ∧
        t.memory = s.memory ∧ t.log = ⟨.now, time⟩ :: s.log)
      (do return r.transition next (← now)) s := by
  have clock : (Solo.setting outside).Ensures _ now s := Solo.ensures_outside fun _ => rfl
  refine clock.bind fun time t _ hQ => ?_
  rintro _ rfl
  refine ⟨time, ?_, hQ t rfl⟩
  simp only [Message.transition, allowed, if_true]

theorem ensures_givenUp (x : MessageId) (s : Solo ω) :
    (Solo.setting outside).Ensures (fun _ t => GivenUp x s t) (failPending x) s := by
  have find : (Solo.setting outside).Ensures _ (findMessage x) s := Solo.ensures_read rfl
  refine find.bindOrFail (fun known t _ hQ => ?_) fun e t _ hQ => ?_
  · obtain ⟨eq, memory, log⟩ := hQ t rfl
    have found : known = s.memory.messages.find? x := Except.ok.inj eq
    cases known with
    | none =>
      rintro _ rfl
      refine .kept (fun r hr => ?_) memory log
      rw [← found] at hr
      cases hr
    | some r =>
      dsimp only
      by_cases ended : r.status.isTerminal = true
      · rw [if_pos ended]
        rintro _ rfl
        refine .kept (fun r' hr => ?_) memory log
        rw [← found] at hr
        cases hr
        exact ended
      · rw [if_neg ended]
        have notOver := Bool.not_eq_true _ ▸ ended
        have named := Table.key_of_find? found.symm
        have allowed := MessageStatus.allows_of_isTerminal notOver (t := .failed) rfl
        refine (ensures_transition allowed).bindOrFail (fun _ u _ hQ => ?_) fun e u _ hQ => ?_
        · obtain ⟨time, ⟨⟩, memory', log'⟩ := hQ u rfl
          let r' : Message := { r with status := .failed, updated := time }
          have eq : r' = { r with status := .failed, updated := time } := rfl
          have stored : u.memory.messages.find? r'.id = some r := by
            rw [memory', memory]
            exact (congrArg _ named).trans found.symm
          refine (Solo.ensures_update stored allowed).bindOrFail (fun _ v _ hQ => ?_)
            fun e v _ hQ => ?_
          · obtain ⟨-, wrote⟩ := hQ v rfl
            rintro _ rfl
            refine .failed found.symm notOver eq (fun y => ?_) ?_ ?_
            · rw [wrote.messages, memory', memory, ← named]
            · rw [wrote.rest, memory', memory]
            · rw [wrote.log, log', log, found]
              rfl
          · cases hQ.1
        · obtain ⟨time, ⟨⟩, -⟩ := hQ
  · cases hQ.1

end Dispatch

end MessageGateway
