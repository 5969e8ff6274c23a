import MessageGateway.Proofs.Dispatch.Footprint

/-!
# A send alone

A send that runs alone on a memory, while everything outside of the memory answers as it likes,
ends in one of three ways: it fails and leaves no trace of a delivery, it fails and the record of
its message is stored as failed, or it succeeds and its record is stored. Instances are left alone,
except for that of a session which the gateway refuses or which is not logged in.

## Main definitions

* `Solo`, `Solo.answer`: a memory, what lies outside of it, and the calls so far
* `Dispatch.Atomic`, `Dispatch.Downgraded`: the three ends of a send, and what becomes of instances

## Main results

* `Dispatch.send_atomic`: every send alone ends in one of the three ways
-/

namespace MessageGateway

open Program Setting

/-- The gateway refused the session, or the session is not logged in. -/
def Exchange.isRefusal : Exchange → Bool
  | ⟨.openSession _, .ok session⟩ => !session.loggedIn
  | ⟨.openSession _, .error _⟩ => true
  | _ => false

/-- A memory, what lies outside of it, and the calls so far. -/
structure Solo (ω : Type) where
  /-- The memory. -/
  memory : Memory
  /-- What lies outside of the memory. -/
  world : ω
  /-- The calls so far, last one first. -/
  log : List Exchange

namespace Solo

variable {ω : Type}

/-- The memory answers what it can, and what lies outside of it answers the rest. -/
def answer (outside : (c : Call) → ω → c.Answer × ω) (c : Call) (s : Solo ω) :
    c.Answer × Solo ω :=
  match s.memory.answer? c with
  | some (a, m) => (a, ⟨m, s.world, ⟨c, a⟩ :: s.log⟩)
  | none => ((outside c s.world).1, ⟨s.memory, (outside c s.world).2,
      ⟨c, (outside c s.world).1⟩ :: s.log⟩)

variable {outside : (c : Call) → ω → c.Answer × ω} {s t : Solo ω} {c : Call} {a : c.Answer}

/-- What surrounds a program that runs alone on a memory. -/
abbrev setting (outside : (c : Call) → ω → c.Answer × ω) : Setting (Solo ω) :=
  alone (answer outside)

theorem answer_of_some {b : c.Answer} {m : Memory} (h : s.memory.answer? c = some (b, m))
    (served : answer outside c s = (a, t)) :
    a = b ∧ t = ⟨m, s.world, ⟨c, b⟩ :: s.log⟩ := by
  rw [answer, h] at served
  cases served
  exact ⟨rfl, rfl⟩

theorem answer_of_none (h : s.memory.answer? c = none) (served : answer outside c s = (a, t)) :
    ∃ w, t = ⟨s.memory, w, ⟨c, a⟩ :: s.log⟩ := by
  rw [answer, h] at served
  cases served
  exact ⟨_, rfl⟩

end Solo

namespace Dispatch

variable {ω : Type} {outside : (c : Call) → ω → c.Answer × ω} {m : Memory} {s t : Solo ω}
  {r : Message} {i : InstanceId}

/-! ## The ends of a send -/

/-- The messages are those of `m`, but for the record `r` under its name. -/
def Rewritten (m : Memory) (r : Message) (s : Solo ω) : Prop :=
  ∀ x, s.memory.messages.find? x = if x = r.id then some r else m.messages.find? x

/-- How a send ends on the memory `m`: it fails without a record, leaves the messages alone and
tries no transmission; or it fails to transmit, and stores that; or it succeeds, and stores that. -/
def Atomic (m : Memory) : Except SendFailure Message → Solo ω → Prop
  | .error ⟨_, none⟩, s =>
    s.memory.messages = m.messages ∧ ∀ e ∈ s.log, e.call.isTransmission = false
  | .error ⟨cause, some r⟩, s =>
    (∃ e, cause = .transmission e) ∧ r.status = .failed ∧ Rewritten m r s
  | .ok r, s => r.status.isTerminal = true ∧ Rewritten m r s

/-- What becomes of the instances: if the session of `i` was refused, the status of `i` is lowered
and nothing else is changed; if not, nothing is changed. -/
structure Downgraded (m : Memory) (i : InstanceId) (s : Solo ω) : Prop where
  refused : (∃ e ∈ s.log, e.isRefusal = true) → ∃ r, m.instances.find? i = some r ∧
    r.isActive = true ∧ ∀ j, s.memory.instances.find? j =
      if j = i then some { r with status := .error } else m.instances.find? j
  connected : (∀ e ∈ s.log, e.isRefusal = false) → s.memory.instances = m.instances

/-! ## Before anything is stored -/

/-- Nothing has come of the send yet. -/
structure Before (m : Memory) (s : Solo ω) : Prop where
  messages : s.memory.messages = m.messages
  instances : s.memory.instances = m.instances
  untransmitted : ∀ e ∈ s.log, e.call.isTransmission = false
  connected : ∀ e ∈ s.log, e.isRefusal = false

/-- The session was refused, and its instance does not tell so yet. -/
structure Unreported (m : Memory) (s : Solo ω) : Prop where
  messages : s.memory.messages = m.messages
  instances : s.memory.instances = m.instances
  untransmitted : ∀ e ∈ s.log, e.call.isTransmission = false
  refused : ∃ e ∈ s.log, e.isRefusal = true

/-- The session was refused, and its instance tells so. -/
structure Refused (m : Memory) (i : InstanceId) (s : Solo ω) : Prop where
  messages : s.memory.messages = m.messages
  untransmitted : ∀ e ∈ s.log, e.call.isTransmission = false
  downgraded : Downgraded m i s

/-- The record of the message is stored, and the instances are as they were. -/
structure Stored (m : Memory) (r : Message) (s : Solo ω) : Prop where
  rewritten : Rewritten m r s
  instances : s.memory.instances = m.instances
  connected : ∀ e ∈ s.log, e.isRefusal = false

/-- A call by which nothing can come of a send. -/
structure Harmless (c : Call) : Prop where
  memory : ∀ m a m', Memory.answer? c m = some (a, m') → m' = m
  transmits : c.isTransmission = false
  refuses : ∀ a, Exchange.isRefusal ⟨c, a⟩ = false

theorem harmless_of_isPreparation {c : Call} (h : c.isPreparation = true) : Harmless c where
  memory m a m' eq := by
    rw [Call.answer?_of_isPreparation h] at eq
    cases eq
  transmits := Call.isTransmission_of_not_isDeed (Call.not_isDeed_of_isPreparation h)
  refuses a := by
    cases c <;> first | rfl | cases h

theorem harmless_now : Harmless .now := harmless_of_isPreparation rfl

theorem harmless_findMessage (x : MessageId) : Harmless (.findMessage x) :=
  ⟨by rintro m a m' ⟨⟩; rfl, rfl, fun _ => rfl⟩

theorem harmless_findInstance (i : InstanceId) : Harmless (.findInstance i) :=
  ⟨by rintro m a m' ⟨⟩; rfl, rfl, fun _ => rfl⟩

theorem harmless_newMessageId : Harmless .newMessageId :=
  ⟨by rintro m a m' ⟨⟩, rfl, fun _ => rfl⟩

variable {c : Call} {a : c.Answer}

/-- A harmless call changes nothing but the log. -/
theorem Harmless.next (h : Harmless c) (served : Solo.answer outside c s = (a, t)) :
    t.memory = s.memory ∧ t.log = ⟨c, a⟩ :: s.log := by
  cases hc : s.memory.answer? c with
  | some r =>
    obtain ⟨rfl, rfl⟩ := Solo.answer_of_some hc served
    exact ⟨h.memory _ _ _ hc, rfl⟩
  | none =>
    obtain ⟨w, rfl⟩ := Solo.answer_of_none hc served
    exact ⟨rfl, rfl⟩

theorem Before.next (before : Before m s) (h : Harmless c)
    (served : Solo.answer outside c s = (a, t)) : Before m t := by
  obtain ⟨memory, log⟩ := h.next served
  constructor
  · rw [memory, before.messages]
  · rw [memory, before.instances]
  · rw [log]
    exact List.forall_mem_cons.2 ⟨h.transmits, before.untransmitted⟩
  · rw [log]
    exact List.forall_mem_cons.2 ⟨h.refuses a, before.connected⟩

/-- As long as all calls are harmless, nothing comes of a send. -/
theorem ensures_before {α : Type} {q : Program α} (only : q.Only Harmless) (before : Before m s) :
    (Solo.setting outside).Ensures (fun _ t => Before m t) q s := by
  have any := ensures_of_allowed (E := Solo.setting outside) (s := s)
    (only.mono fun _ _ _ => trivial)
  have framed := any.frame only (I := Before m) (by rintro _ _ rfl before; exact before)
    (fun h _ _ served before => before.next h served) before
  exact framed.mono fun _ _ _ h => h.2

theorem ensures_ask {Q : c.Answer → Solo ω → Prop}
    (h : ∀ a t, Solo.answer outside c s = (a, t) → Q a t) :
    (Solo.setting outside).Ensures Q (request c) s := by
  refine ensures_request fun t ht => ⟨trivial, fun a u served v hv => ?_⟩
  cases ht
  cases hv
  exact h a u served

theorem ensures_existing (id : Option MessageId) (before : Before m s) :
    (Solo.setting outside).Ensures
      (fun r t => Before m t ∧ ∀ known, r = .ok known → ∀ r ∈ known, m.messages.find? r.id = some r)
      (existing id).run s := by
  cases id with
  | none =>
    refine ensures_pure fun t ht => ?_
    cases ht
    refine ⟨before, fun known eq r hr => ?_⟩
    cases eq
    cases hr
  | some x =>
    have find : (Solo.setting outside).Ensures
        (fun a t => Before m t ∧ a = .ok (m.messages.find? x)) (findMessage x) s := by
      refine ensures_ask fun a t served => ⟨before.next (harmless_findMessage x) served, ?_⟩
      rw [(Solo.answer_of_some rfl served).1, before.messages]
    refine Ensures.orFail find (fun known t _ hQ => ⟨hQ.1, ?_⟩) fun e t _ hQ =>
      ⟨hQ.1, fun _ eq => by cases eq⟩
    rintro _ ⟨⟩ r found
    obtain rfl := Except.ok.inj hQ.2
    rw [Table.key_of_find? found, found]

/-- The instance that is checked is there and active. -/
theorem ensures_checkInstance (before : Before m s) :
    (Solo.setting outside).Ensures
      (fun res t => Before m t ∧
        (res = .ok () → ∃ r, m.instances.find? i = some r ∧ r.isActive = true))
      (checkInstance i).run s := by
  have find : (Solo.setting outside).Ensures
      (fun a t => Before m t ∧ ∀ r, a = .ok r → m.instances.find? i = some r)
      (findInstance i) s := by
    refine ensures_ask fun a t served => ⟨before.next (harmless_findInstance i) served, ?_⟩
    rw [(Solo.answer_of_some rfl served).1, before.instances, InstanceStore.get]
    rintro r eq
    split at eq
    · next found =>
      cases eq
      exact found
    · cases eq
  refine find.bindLift fun a t _ hQ => ?_
  obtain ⟨before, found⟩ := hQ t rfl
  have stop (failure : SendFailure) : (Solo.setting outside).Ensures
      (fun res t => Before m t ∧
        (res = .ok () → ∃ r, m.instances.find? i = some r ∧ r.isActive = true))
      (throw failure : ExceptT SendFailure Program Unit).run t :=
    ensures_pure fun u hu => by cases hu; exact ⟨before, fun eq => by cases eq⟩
  cases a with
  | ok r =>
    dsimp only
    split
    · next active =>
      exact ensures_pure fun u hu => by cases hu; exact ⟨before, fun _ => ⟨r, found r rfl, active⟩⟩
    · exact stop _
  | error e =>
    cases e with
    | notFound => exact stop _
    | conflict => exact stop _
    | backend => exact stop _

theorem answer?_updateInstance {m : Memory} {r : Instance} {instances : InstanceStore}
    (taken : m.instances.update r = .ok instances) :
    m.answer? (.updateInstance r) = some (.ok r, { m with instances }) := by
  rw [Memory.answer?, taken]
  rfl

theorem Unreported.next (unreported : Unreported m s) (h : Harmless c)
    (served : Solo.answer outside c s = (a, t)) : Unreported m t := by
  obtain ⟨memory, log⟩ := h.next served
  constructor
  · rw [memory, unreported.messages]
  · rw [memory, unreported.instances]
  · rw [log]
    exact List.forall_mem_cons.2 ⟨h.transmits, unreported.untransmitted⟩
  · obtain ⟨e, he, refuses⟩ := unreported.refused
    rw [log]
    exact ⟨e, List.mem_cons_of_mem _ he, refuses⟩

/-- The status of an instance whose session was refused is lowered. -/
theorem ensures_downgrade {r : Instance} (unreported : Unreported m s)
    (found : m.instances.find? i = some r) (active : r.isActive = true) :
    (Solo.setting outside).Ensures (fun _ t => Refused m i t) (downgrade i) s := by
  have find : (Solo.setting outside).Ensures (fun a t => Unreported m t ∧ a = .ok r)
      (findInstance i) s := by
    refine ensures_ask fun a t served => ⟨unreported.next (harmless_findInstance i) served, ?_⟩
    rw [(Solo.answer_of_some rfl served).1, unreported.instances, InstanceStore.get, found]
  refine find.bind fun a t _ hQ => ?_
  obtain ⟨unreported, rfl⟩ := hQ t rfl
  have update : (Solo.setting outside).Ensures (fun _ t => Refused m i t)
      (updateInstance { r with status := .error }) t := by
    refine ensures_ask fun a u served => ?_
    have named : r.id = i := Table.key_of_find? found
    subst named
    let lowered : Instance := { r with status := .error }
    have there : t.memory.instances.find? lowered.id = some r := by
      rw [unreported.instances]
      exact found
    obtain ⟨instances, taken, after⟩ := InstanceStore.exists_update_eq_ok there
    obtain ⟨-, rfl⟩ := Solo.answer_of_some (answer?_updateInstance taken) served
    obtain ⟨e, he, refuses⟩ := unreported.refused
    refine ⟨unreported.messages, List.forall_mem_cons.2 ⟨rfl, unreported.untransmitted⟩, ?_, ?_⟩
    · refine fun _ => ⟨r, found, active, fun j => ?_⟩
      rw [← unreported.instances]
      exact after j
    · intro connected
      simp [connected e (List.mem_cons_of_mem _ he)] at refuses
  exact update.bindBestEffort fun _ u _ hQ => ensures_pure hQ

theorem ensures_checkSession {r : Instance} (before : Before m s)
    (found : m.instances.find? i = some r) (active : r.isActive = true) :
    (Solo.setting outside).Ensures
      (fun res t => (res = .ok () → Before m t) ∧
        ∀ failure, res = .error failure → Refused m i t)
      (checkSession i).run s := by
  have session : (Solo.setting outside).Ensures
      (fun a t => (Exchange.isRefusal ⟨.openSession i, a⟩ = false → Before m t) ∧
        (Exchange.isRefusal ⟨.openSession i, a⟩ = true → Unreported m t)) (openSession i) s := by
    refine ensures_ask fun a t served => ?_
    obtain ⟨w, rfl⟩ := Solo.answer_of_none rfl served
    have untransmitted : ∀ e ∈ (⟨.openSession i, a⟩ :: s.log : List Exchange),
        e.call.isTransmission = false :=
      List.forall_mem_cons.2 ⟨rfl, before.untransmitted⟩
    constructor
    · intro accepted
      exact ⟨before.messages, before.instances, untransmitted,
        List.forall_mem_cons.2 ⟨accepted, before.connected⟩⟩
    · intro refused
      exact ⟨before.messages, before.instances, untransmitted, _, List.mem_cons_self, refused⟩
  refine session.bindLift fun a t _ hQ => ?_
  obtain ⟨accepted, refused⟩ := hQ t rfl
  have stop (unreported : Unreported m t) : (Solo.setting outside).Ensures
      (fun res t => (res = .ok () → Before m t) ∧
        ∀ failure, res = .error failure → Refused m i t)
      (do
        downgrade i
        throw (.of (.notConnected i)) : ExceptT SendFailure Program Unit).run t :=
    (ensures_downgrade unreported found active).bindLift fun _ u _ hQ =>
      ensures_pure fun v hv => ⟨fun eq => (by cases eq), fun _ _ => hQ v hv⟩
  cases a with
  | ok session =>
    dsimp only
    split
    · next loggedIn =>
      refine ensures_pure fun u hu => ?_
      cases hu
      exact ⟨fun _ => accepted (by simp [Exchange.isRefusal, loggedIn]), fun _ eq => by cases eq⟩
    · next loggedOut => exact stop (refused (by simp [Exchange.isRefusal, loggedOut]))
  | error e => exact stop (refused rfl)

/-! ## Storing the record -/

theorem Stored.next (stored : Stored m r s) (memory : t.memory = s.memory)
    (log : t.log = ⟨c, a⟩ :: s.log) (accepted : Exchange.isRefusal ⟨c, a⟩ = false) :
    Stored m r t where
  rewritten x := by rw [memory, stored.rewritten x]
  instances := by rw [memory, stored.instances]
  connected := by
    rw [log]
    exact List.forall_mem_cons.2 ⟨accepted, stored.connected⟩

theorem ensures_createMessage (r : Message) (before : Before m s) :
    (Solo.setting outside).Ensures
      (fun a t => (∀ r', a = .ok r' → r' = r ∧ Stored m r t) ∧ ∀ e, a = .error e → Before m t)
      (createMessage r) s := by
  refine ensures_ask fun a t served => ?_
  have connected : ∀ e ∈ (⟨.createMessage r, a⟩ :: s.log : List Exchange), e.isRefusal = false :=
    List.forall_mem_cons.2 ⟨rfl, before.connected⟩
  cases hc : s.memory.messages.create r with
  | ok messages =>
    have written : s.memory.answer? (.createMessage r) =
        some (.ok r, { s.memory with messages }) := by
      rw [Memory.answer?, hc]
      rfl
    obtain ⟨rfl, rfl⟩ := Solo.answer_of_some written served
    refine ⟨fun r' eq => ⟨(Except.ok.inj eq).symm, fun x => ?_, before.instances, connected⟩,
      fun _ eq => by cases eq⟩
    rw [← before.messages]
    exact (MessageStore.find?_of_create hc).2 x
  | error e =>
    have refused : s.memory.answer? (.createMessage r) = some (.error e, s.memory) := by
      rw [Memory.answer?, hc]
      rfl
    obtain ⟨rfl, rfl⟩ := Solo.answer_of_some refused served
    refine ⟨fun _ eq => (by cases eq), fun _ _ =>
      ⟨before.messages, before.instances, ?_, connected⟩⟩
    exact List.forall_mem_cons.2 ⟨rfl, before.untransmitted⟩

/-- Nobody keeps a record that was found from being overwritten. -/
theorem ensures_updateMessage {r₀ : Message} (found : s.memory.messages.find? r.id = some r₀)
    (allowed : r₀.status.allows r.status = true)
    (others : ∀ x, x ≠ r.id → s.memory.messages.find? x = m.messages.find? x)
    (instances : s.memory.instances = m.instances)
    (connected : ∀ e ∈ s.log, e.isRefusal = false) :
    (Solo.setting outside).Ensures (fun a t => a = .ok () ∧ Stored m r t)
      (updateMessage r) s := by
  refine ensures_ask fun a t served => ?_
  obtain ⟨messages, taken⟩ := MessageStore.exists_update_eq_ok found allowed
  have written : s.memory.answer? (.updateMessage r) =
      some (.ok (), { s.memory with messages }) := by
    rw [Memory.answer?, taken]
    rfl
  obtain ⟨rfl, rfl⟩ := Solo.answer_of_some written served
  refine ⟨rfl, fun x => ?_, instances, List.forall_mem_cons.2 ⟨rfl, connected⟩⟩
  rw [(MessageStore.find?_of_update taken).2 x]
  split
  · rfl
  · next hx => exact others x hx

theorem ensures_store (input : SendInput) {known : Option Message} (outbound : Outbound)
    (before : Before m s)
    (stored : ∀ r ∈ known, m.messages.find? r.id = some r ∧ r.status.isTerminal = false) :
    (Solo.setting outside).Ensures
      (fun res t => (∀ r, res = .ok r → Stored m r t ∧ r.status = .sending) ∧
        ∀ failure, res = .error failure → Before m t)
      (store input known outbound).run s := by
  have time : (Solo.setting outside).Ensures (fun _ t => Before m t) now s :=
    ensures_before (only_request harmless_now) before
  refine time.bindLift fun now t _ hQ => ?_
  have before := hQ t rfl
  cases known with
  | some r =>
    obtain ⟨found, notOver⟩ := stored r rfl
    have allowed := MessageStatus.allows_sending notOver
    simp only [Message.transition, allowed, if_true]
    let r' : Message := { r with payload := outbound.summary, status := .sending, updated := now }
    show (Solo.setting outside).Ensures _ (do
      orFail .ofStore (updateMessage r')
      return r' : ExceptT SendFailure Program Message).run t
    have found' : t.memory.messages.find? r'.id = some r := by
      rw [before.messages]
      exact found
    have update : (Solo.setting outside).Ensures (fun a u => a = .ok () ∧ Stored m r' u)
        (updateMessage r') t :=
      ensures_updateMessage found' allowed (fun x _ => by rw [before.messages]) before.instances
        before.connected
    refine update.bindOrFail (fun _ u _ hQ => ensures_pure fun v hv => ?_) fun e u _ hQ => ?_
    · refine ⟨fun r eq => ?_, fun _ eq => by cases eq⟩
      cases eq
      exact ⟨(hQ v hv).2, rfl⟩
    · cases hQ.1
  | none =>
    have created (id : MessageId) {u : Solo ω} (before : Before m u) :
        (Solo.setting outside).Ensures
          (fun res t => (∀ r, res = .ok r → Stored m r t ∧ r.status = .sending) ∧
            ∀ failure, res = .error failure → Before m t)
          (orFail .ofStore (createMessage (.make id input.owner input.recipient input.content.kind
            outbound.summary .sending now)) : ExceptT SendFailure Program Message).run u := by
      refine Ensures.orFail (ensures_createMessage _ before) (fun a v _ hQ => ?_) fun e v _ hQ => ?_
      · refine ⟨fun r eq => ?_, fun _ eq => by cases eq⟩
        cases eq
        obtain ⟨rfl, stored⟩ := hQ.1 a rfl
        exact ⟨stored, rfl⟩
      · exact ⟨fun _ eq => (by cases eq), fun _ _ => hQ.2 e rfl⟩
    dsimp only
    cases input.id with
    | some id => exact created id before
    | none =>
      have name : (Solo.setting outside).Ensures (fun _ u => Before m u) newMessageId t :=
        ensures_before (only_request harmless_newMessageId) before
      exact name.bindLift fun id u _ hQ => created id (hQ u rfl)

theorem ensures_settle {status : MessageStatus} (stored : Stored m r s)
    (sending : r.status = .sending) (terminal : status.isTerminal = true) :
    (Solo.setting outside).Ensures
      (fun r' t => r'.status = status ∧ Stored m r' t) (settle r status) s := by
  have time : (Solo.setting outside).Ensures (fun _ t => Stored m r t) now s := by
    refine ensures_ask fun a t served => ?_
    obtain ⟨memory, log⟩ := harmless_now.next served
    exact stored.next memory log rfl
  refine time.bind fun now t _ hQ => ?_
  have stored := hQ t rfl
  have allowed : r.status.allows status = true := by
    rw [sending]
    exact MessageStatus.allows_of_isTerminal rfl terminal
  simp only [Message.transition, allowed, if_true]
  let r' : Message := { r with status := status, updated := now }
  show (Solo.setting outside).Ensures _ (do
    let _ ← bestEffort (updateMessage r')
    return r') t
  have found : t.memory.messages.find? r'.id = some r := by
    rw [stored.rewritten]
    exact if_pos rfl
  have others (x : MessageId) (hx : x ≠ r'.id) :
      t.memory.messages.find? x = m.messages.find? x := by
    rw [stored.rewritten]
    exact if_neg hx
  have update : (Solo.setting outside).Ensures (fun a u => a = .ok () ∧ Stored m r' u)
      (updateMessage r') t :=
    ensures_updateMessage found allowed others stored.instances stored.connected
  exact update.bindBestEffort fun _ u _ hQ => ensures_pure fun v hv => ⟨rfl, (hQ v hv).2⟩

/-! ## The whole send -/

theorem Stored.downgraded (stored : Stored m r s) : Downgraded m i s where
  refused := by
    rintro ⟨e, he, refuses⟩
    simp [stored.connected e he] at refuses
  connected _ := stored.instances

theorem Before.downgraded (before : Before m s) : Downgraded m i s where
  refused := by
    rintro ⟨e, he, refuses⟩
    simp [before.connected e he] at refuses
  connected _ := before.instances

/-- A failure without a record, where messages were left alone. -/
theorem atomic_of_traceless {failure : SendFailure} (traceless : failure.record = none)
    (messages : s.memory.messages = m.messages)
    (untransmitted : ∀ e ∈ s.log, e.call.isTransmission = false) :
    Atomic m (.error failure) s := by
  obtain ⟨cause, record⟩ := failure
  cases traceless
  exact ⟨messages, untransmitted⟩

/-- A send that fails without a record, before anything has come of it. -/
theorem Before.failed {failure : SendFailure} (before : Before m s)
    (traceless : failure.record = none) : Atomic m (.error failure) s ∧ Downgraded m i s :=
  ⟨atomic_of_traceless traceless before.messages before.untransmitted, before.downgraded⟩

theorem ensures_deliver {address : Address} {outbound : Outbound} (stored : Stored m r s)
    (sending : r.status = .sending) :
    (Solo.setting outside).Ensures (fun res t => Atomic m res t ∧ Downgraded m i t)
      (deliver r i address outbound).run s := by
  have transmitted : (Solo.setting outside).Ensures (fun _ t => Stored m r t)
      (transmit i address outbound) s := by
    refine ensures_ask fun a t served => ?_
    obtain ⟨w, rfl⟩ := Solo.answer_of_none rfl served
    exact stored.next rfl rfl rfl
  refine transmitted.bindLift fun answer t _ hQ => ?_
  have stored := hQ t rfl
  cases answer with
  | ok _ =>
    refine (ensures_settle stored sending rfl).map fun r' u _ ⟨status, stored⟩ => ?_
    exact ⟨⟨by rw [status]; rfl, stored.rewritten⟩, stored.downgraded⟩
  | error e =>
    refine (ensures_settle stored sending rfl).bindLift fun r' u _ hQ => ensures_pure fun v hv => ?_
    obtain ⟨status, stored⟩ := hQ v hv
    exact ⟨⟨⟨e, rfl⟩, status, stored.rewritten⟩, stored.downgraded⟩

theorem ensures_proceed (c : GatewayConfig) (input : SendInput) {known : Option Message}
    (before : Before m s)
    (stored : ∀ r ∈ known, m.messages.find? r.id = some r ∧ r.status.isTerminal = false) :
    (Solo.setting outside).Ensures
      (fun res t => Atomic m res t ∧ Downgraded m input.owner t)
      (proceed c input known).run s := by
  unfold proceed
  have checked : (Solo.setting outside).Ensures _ (checkInstance input.owner).run s :=
    ensures_checkInstance before
  refine (checked.ends (checkInstance_traceless _)).bindExcept (fun _ t _ hQ => ?_)
    fun failure t _ hQ => hQ.1.1.failed (hQ.2 failure rfl)
  obtain ⟨⟨before, there⟩, -⟩ := hQ t rfl
  obtain ⟨r, found, active⟩ := there rfl
  have session : (Solo.setting outside).Ensures _ (checkSession input.owner).run t :=
    ensures_checkSession before found active
  refine (session.ends (checkSession_traceless _)).bindExcept (fun _ u _ hQ => ?_)
    fun failure u _ hQ => ?_
  · have before := (hQ u rfl).1.1 rfl
    have prepared : (Solo.setting outside).Ensures (fun _ v => Before m v)
        (prepare c input).run u :=
      ensures_before ((prepare_only c input).mono fun _ => harmless_of_isPreparation) before
    refine (prepared.ends (prepare_traceless c input)).bindExcept
      (fun (address, outbound) v _ hQ => ?_) fun failure v _ hQ => hQ.1.failed (hQ.2 failure rfl)
    have before := (hQ v rfl).1
    refine ((ensures_store input outbound before stored).ends (store_traceless _ _ _)).bindExcept
      (fun r w _ hQ => ?_) fun failure w _ hQ => (hQ.1.2 failure rfl).failed (hQ.2 failure rfl)
    obtain ⟨stored, sending⟩ := (hQ w rfl).1.1 r rfl
    exact ensures_deliver stored sending
  · -- only the check of the session fails with a change of an instance
    have refused := hQ.1.2 failure rfl
    exact ⟨atomic_of_traceless (hQ.2 failure rfl) refused.messages refused.untransmitted,
      refused.downgraded⟩

theorem ensures_send (c : GatewayConfig) (input : SendInput) (before : Before m s) :
    (Solo.setting outside).Ensures
      (fun res t => Atomic m res t ∧ Downgraded m input.owner t) (send c input) s := by
  unfold send
  split
  · exact ensures_pure fun t ht => by
      cases ht
      exact before.failed rfl
  · have existing : (Solo.setting outside).Ensures _ (existing input.id).run s :=
      ensures_existing input.id before
    refine (existing.ends (existing_traceless _)).bindExcept (fun known t _ hQ => ?_)
      fun failure t _ hQ => ?_
    · obtain ⟨⟨before, stored⟩, -⟩ := hQ t rfl
      have stored := stored known rfl
      split
      · next r hr =>
        obtain ⟨found, ended⟩ := Option.filter_eq_some_iff.1 hr
        refine ensures_pure fun u hu => ?_
        cases hu
        refine ⟨⟨ended, fun x => ?_⟩, before.downgraded⟩
        rw [before.messages]
        split
        · next hx => rw [hx, stored r found]
        · rfl
      · next notOver =>
        refine ensures_proceed c input before fun r hr => ⟨stored r hr, ?_⟩
        exact notOver_of_filter notOver r hr
    · exact hQ.1.1.failed (hQ.2 failure rfl)

/-- **A send alone is atomic**: on every memory, and whatever is answered from outside of it, it
ends in one of the three ways, and lowers the status of the instance exactly when its session was
refused. -/
theorem send_atomic (outside : (c : Call) → ω → c.Answer × ω) (c : GatewayConfig)
    (input : SendInput) (m : Memory) (w : ω) :
    let (result, s) := (send c input).run (Solo.answer outside) ⟨m, w, []⟩
    Atomic m result s ∧ Downgraded m input.owner s := by
  have before : Before m (⟨m, w, []⟩ : Solo ω) :=
    ⟨rfl, rfl, List.forall_mem_nil _, List.forall_mem_nil _⟩
  exact run_of_ensures (ensures_send c input before)

end Dispatch

end MessageGateway
