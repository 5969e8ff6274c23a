import MessageGateway.Proofs.Delivery.Tenants
import MessageGateway.Proofs.Dispatch.Course

/-!
# Operations alone

What a submission, a worker with its event and a sweep come to when each of them runs alone on a
memory, with all of their calls.

## Main definitions

* `Delivery.Submitted`, `Delivery.Processed`, `Delivery.Swept`: the ends of the three operations
* `Delivery.Operated`: the ends of any operation
* `Delivery.Operation.after`: what an operation leaves when it runs alone
* `Delivery.Sample.surroundings`: a network without trouble and a source of names

## Main results

* `Delivery.ensures_submitted`, `Delivery.ensures_processed`, `Delivery.ensures_swept`
* `Delivery.Operation.exists_operated`: any operation, after other ones
-/

namespace MessageGateway

open Program Setting

variable {ω : Type} {outside : (c : Call) → ω → c.Answer × ω} {s t : Solo ω}

namespace Delivery

variable {c : GatewayConfig} {m : Memory}

/-! ## Submissions -/

/-- How a submission ends on the memory `m`: the input is rejected, the name that was drawn is
taken, or the record is stored and its event offered to the queue. -/
inductive Submitted (input : EnqueueInput) (m : Memory) :
    Except DispatchError Message → Solo ω → Prop
  | rejected {e : DispatchError} {t : Solo ω} (invalid : input.validate = .error e)
      (memory : t.memory = m) (calls : t.log = []) :
    Submitted input m (.error e) t
  | clashed {text : String} {t : Solo ω} (valid : input.validate = .ok ()) (memory : t.memory = m)
      (calls : ∃ r time, m.messages.contains r.id = true ∧ t.log =
        [⟨.createMessage r, .error (.conflict text)⟩, ⟨.now, time⟩, ⟨.newMessageId, r.id⟩]) :
    Submitted input m (.error (.store (.conflict text))) t
  | accepted {x : MessageId} {time : Timestamp} {r : Message} {a : Except QueueError Unit}
      {t : Solo ω} (valid : input.validate = .ok ()) (absent : m.messages.find? x = none)
      (eq : r = .make x input.owner input.recipient .text input.text .queued time)
      (messages : ∀ y, t.memory.messages.find? y = if y = x then some r else m.messages.find? y)
      (rest : t.memory = { m with messages := t.memory.messages, queue := t.memory.queue })
      (calls : t.log = [⟨.enqueue (.ofMessage r), a⟩, ⟨.createMessage r, .ok r⟩, ⟨.now, time⟩,
        ⟨.newMessageId, x⟩]) :
    Submitted input m (.ok r) t

/-- An event is offered to the queue, and an open queue takes it. -/
theorem ensures_enqueue (e : QueueEvent) : (Solo.setting outside).Ensures
    (fun a t => t.memory = { s.memory with queue := t.memory.queue } ∧
      t.log = ⟨.enqueue e, a⟩ :: s.log ∧
      (s.memory.queue.isClosed = false → a = .ok () ∧
        t.memory.queue = { s.memory.queue with events := s.memory.queue.events ++ [e] }))
    (enqueue e) s := by
  refine Dispatch.ensures_ask fun a t served => ?_
  cases taken : s.memory.queue.enqueue e with
  | ok queue =>
    have answered : s.memory.answer? (.enqueue e) = some (.ok (), { s.memory with queue }) := by
      rw [Memory.answer?, taken]
    obtain ⟨rfl, rfl⟩ := Solo.answer_of_some answered served
    refine ⟨rfl, rfl, fun opened => ⟨rfl, ?_⟩⟩
    rw [DeliveryQueue.enqueue, if_neg (by simp [opened])] at taken
    exact (Except.ok.inj taken).symm
  | error err =>
    have answered : s.memory.answer? (.enqueue e) = some (.error err, s.memory) := by
      rw [Memory.answer?, taken]
    obtain ⟨rfl, rfl⟩ := Solo.answer_of_some answered served
    refine ⟨rfl, rfl, fun opened => ?_⟩
    simp [DeliveryQueue.enqueue, opened] at taken

theorem ensures_submitted (input : EnqueueInput) (m : Memory) (w : ω) :
    (Solo.setting outside).Ensures (Submitted input m) (submit input) ⟨m, w, []⟩ := by
  have checked : (Solo.setting outside).Ensures
      (fun res t => res = input.validate ∧ t = ⟨m, w, []⟩) (pure input.validate) ⟨m, w, []⟩ := by
    rintro _ rfl
    exact ⟨rfl, rfl⟩
  refine checked.bindOrFail (fun _ s _ hQ => ?_) fun e s _ hQ => ?_
  · obtain ⟨valid, rfl⟩ := hQ s rfl
    have name : (Solo.setting outside).Ensures _ newMessageId ⟨m, w, []⟩ :=
      Solo.ensures_outside fun _ => rfl
    refine name.bindLift fun x t _ hQ => ?_
    obtain ⟨memory, log⟩ := hQ t rfl
    have clock : (Solo.setting outside).Ensures _ now t := Solo.ensures_outside fun _ => rfl
    refine clock.bindLift fun time u _ hQ => ?_
    obtain ⟨memory', log'⟩ := hQ u rfl
    rw [memory] at memory'
    rw [log] at log'
    let r : Message := .make x input.owner input.recipient .text input.text .queued time
    cases found : m.messages.find? x with
    | none =>
      have absent : u.memory.messages.find? r.id = none := by
        rw [memory']
        exact found
      refine (Solo.ensures_create absent).bindOrFail (fun r' v _ hQ => ?_) fun e v _ hQ => ?_
      · obtain ⟨eq, wrote⟩ := hQ v rfl
        cases eq
        have offered : (Solo.setting outside).Ensures
            (fun _ z => z.memory = { v.memory with queue := z.memory.queue } ∧
              ∃ a, z.log = ⟨.enqueue (.ofMessage r), a⟩ :: v.log)
            (bestEffort (enqueue (.ofMessage r))) v :=
          Ensures.map (ensures_enqueue _) fun a z _ hQ => ⟨hQ.1, a, hQ.2.1⟩
        refine offered.bindLift fun _ z _ hQ => ?_
        obtain ⟨rest, a, log''⟩ := hQ z rfl
        rintro _ rfl
        refine .accepted (a := a) valid.symm found rfl (fun y => ?_) ?_ ?_
        · rw [rest, wrote.messages, memory']
          rfl
        · rw [rest, wrote.rest, memory']
        · rw [log'', wrote.log, log']
      · cases hQ.1
    | some r₀ =>
      have taken : u.memory.messages.find? r.id = some r₀ := by
        rw [memory']
        exact found
      refine (Solo.ensures_create_taken taken).bindOrFail (fun r' v _ hQ => ?_) fun e v _ hQ => ?_
      · obtain ⟨_, eq, -⟩ := hQ v rfl
        cases eq
      · obtain ⟨text, eq, memory'', log''⟩ := hQ
        cases eq
        refine .clashed valid.symm (memory''.trans memory') ⟨r, time, ?_, ?_⟩
        · have found : m.messages.find? r.id = some r₀ := found
          rw [Table.contains, found]
          rfl
        · rw [log'', log']
          rfl
  · obtain ⟨invalid, rfl⟩ := hQ
    exact .rejected invalid.symm rfl rfl

/-! ## Workers -/

/-- A failure that will not pass is an input that is incomplete or a refusal of it: nothing was
stored and nothing transmitted. -/
theorem spared_of_permanent {input : SendInput} {failure : SendFailure}
    (course : Dispatch.Course c input m (.error failure) t)
    (permanent : failure.error.kind = .permanent) :
    Dispatch.Spared input.owner m t ∧ ∀ e ∈ t.log, e.Idle := by
  cases course with
  | incomplete _ memory calls =>
    rw [calls]
    exact ⟨.kept memory, List.forall_mem_nil _⟩
  | refused _ spared idle _ => exact ⟨spared, idle⟩
  | clashed => cases permanent
  | @delivered _ _ _ _ _ _ a _ result =>
    cases a with
    | ok => cases result
    | error =>
      cases result
      cases permanent

/-- How the work on an event ends on the memory `m`. What can never be sent is given up. -/
inductive Processed (c : GatewayConfig) (e : QueueEvent) (m : Memory) : Solo ω → Prop
  | unreadable {d : DispatchError} {s t : Solo ω} (unreadable : SendInput.ofEvent e = .error d)
      (memory : s.memory = m) (calls : s.log = []) (gaveUp : Dispatch.GivenUp e.id s t) :
    Processed c e m t
  | sent {input : SendInput} {r : Message} {t : Solo ω}
      (readable : SendInput.ofEvent e = .ok input) (course : Dispatch.Course c input m (.ok r) t) :
    Processed c e m t
  | postponed {input : SendInput} {failure : SendFailure} {t : Solo ω}
      (readable : SendInput.ofEvent e = .ok input)
      (course : Dispatch.Course c input m (.error failure) t)
      (passing : failure.error.kind ≠ .permanent) :
    Processed c e m t
  | rejected {input : SendInput} {failure : SendFailure} {s t : Solo ω}
      (readable : SendInput.ofEvent e = .ok input)
      (course : Dispatch.Course c input m (.error failure) s)
      (permanent : failure.error.kind = .permanent) (gaveUp : Dispatch.GivenUp e.id s t) :
    Processed c e m t

theorem ensures_processed (c : GatewayConfig) (e : QueueEvent) (m : Memory) (w : ω) :
    (Solo.setting outside).Ensures (fun _ t => Processed c e m t) (processEvent c e)
      ⟨m, w, []⟩ := by
  have giveUp (s : Solo ω) : (Solo.setting outside).Ensures
      (fun _ t => Dispatch.GivenUp e.id s t)
      (do let _ ← bestEffort (failPending e.id) : Program Unit) s :=
    (Dispatch.ensures_givenUp e.id s).bindBestEffort fun _ t _ hQ => ensures_pure hQ
  unfold processEvent
  split
  · next d unreadable =>
    exact (giveUp _).mono fun _ t _ gaveUp => .unreadable unreadable rfl rfl gaveUp
  · next input readable =>
    refine (Dispatch.ensures_course c input m w).bind fun res t _ hQ => ?_
    have course := hQ t rfl
    cases res with
    | ok r =>
      rintro _ rfl
      exact .sent readable course
    | error failure =>
      dsimp only
      by_cases permanent : failure.error.kind = .permanent
      · rw [if_pos permanent]
        exact (giveUp t).mono fun _ u _ gaveUp => .rejected readable course permanent gaveUp
      · rw [if_neg permanent]
        rintro _ rfl
        exact .postponed readable course permanent

/-! ## Sweeps -/

/-- How a sweep ends on the memory `m`: the events of the records that it found were offered to the
queue, and an open queue has taken all of them. -/
structure Swept (batch : Nat) (m : Memory) (res : Except StoreError Nat) (t : Solo ω) : Prop where
  rest : t.memory = { m with queue := t.memory.queue }
  calls : ∃ offers, t.log = offers ++
      [⟨.pendingMessages batch, .ok (m.messages.pending batch)⟩] ∧
    ∀ e ∈ offers, ∃ r ∈ m.messages.pending batch, ∃ a, e = ⟨.enqueue (.ofMessage r), a⟩
  taken : m.queue.isClosed = false → res = .ok (m.messages.pending batch).length ∧
    t.memory.queue = { m.queue with
      events := m.queue.events ++ (m.messages.pending batch).map .ofMessage }

theorem ensures_enqueueAll (rs : List Message) : (Solo.setting outside).Ensures
    (fun n t => t.memory = { s.memory with queue := t.memory.queue } ∧
      (∃ offers, t.log = offers ++ s.log ∧
        ∀ e ∈ offers, ∃ r ∈ rs, ∃ a, e = ⟨.enqueue (.ofMessage r), a⟩) ∧
      (s.memory.queue.isClosed = false → n = rs.length ∧
        t.memory.queue = { s.memory.queue with
          events := s.memory.queue.events ++ rs.map .ofMessage }))
    (enqueueAll rs) s := by
  induction rs generalizing s with
  | nil =>
    rintro _ rfl
    exact ⟨rfl, ⟨[], rfl, List.forall_mem_nil _⟩, fun _ => ⟨rfl, by simp⟩⟩
  | cons r rs ih =>
    refine (ensures_enqueue (.ofMessage r)).bind fun a t _ hQ => ?_
    obtain ⟨rest, log, opened⟩ := hQ t rfl
    have offered {u : Solo ω} (others : ∃ offers, u.log = offers ++ t.log ∧
        ∀ e ∈ offers, ∃ r ∈ rs, ∃ a, e = ⟨.enqueue (.ofMessage r), a⟩) :
        ∃ offers, u.log = offers ++ s.log ∧
          ∀ e ∈ offers, ∃ r' ∈ r :: rs, ∃ a, e = ⟨.enqueue (.ofMessage r'), a⟩ := by
      obtain ⟨offers, log', offers_of⟩ := others
      refine ⟨offers ++ [⟨.enqueue (.ofMessage r), a⟩], ?_, fun e he => ?_⟩
      · rw [log', log, List.append_assoc]
        rfl
      · rcases List.mem_append.1 he with he | he
        · obtain ⟨r', hr', eq⟩ := offers_of e he
          exact ⟨r', List.mem_cons_of_mem _ hr', eq⟩
        · rw [List.mem_singleton] at he
          exact ⟨r, List.mem_cons_self, a, he⟩
    cases a with
    | ok _ =>
      refine (ih (s := t)).map fun n u _ hQ => ?_
      obtain ⟨rest', others, opened'⟩ := hQ
      refine ⟨by rw [rest', rest], offered others, fun still => ?_⟩
      obtain ⟨-, queue⟩ := opened still
      rw [queue] at opened'
      obtain ⟨rfl, queue'⟩ := opened' still
      refine ⟨rfl, ?_⟩
      rw [queue', List.append_assoc]
      rfl
    | error err =>
      refine (ih (s := t)).mono fun n u _ hQ => ?_
      obtain ⟨rest', others, -⟩ := hQ
      refine ⟨by rw [rest', rest], offered others, fun still => ?_⟩
      cases (opened still).1

theorem ensures_swept (batch : Nat) (m : Memory) (w : ω) :
    (Solo.setting outside).Ensures (Swept batch m) (sweepOnce batch) ⟨m, w, []⟩ := by
  have find : (Solo.setting outside).Ensures _ (pendingMessages batch) ⟨m, w, []⟩ :=
    Solo.ensures_read rfl
  refine find.bind fun found t _ hQ => ?_
  obtain ⟨rfl, memory, log⟩ := hQ t rfl
  refine (ensures_enqueueAll _).map fun n u _ hQ => ?_
  obtain ⟨rest, offers, opened⟩ := hQ
  rw [memory] at rest opened
  rw [log] at offers
  refine ⟨rest, offers, fun still => ?_⟩
  obtain ⟨rfl, queue⟩ := opened still
  exact ⟨rfl, queue⟩

/-! ## Any operation -/

/-- What an operation leaves when it runs alone. -/
def Operation.after (outside : (c : Call) → ω → c.Answer × ω) (c : GatewayConfig) (s : Solo ω)
    (op : Operation) : Solo ω :=
  ((op.program c).run (Solo.answer outside) s).2

/-- How an operation ends on the memory `m`, whatever it is. -/
inductive Operated (c : GatewayConfig) (m : Memory) (t : Solo ω) : Operation → Prop
  | submit {input : EnqueueInput} {res : Except DispatchError Message}
    (submitted : Submitted input m res t) : Operated c m t (.submit input)
  | send {input : SendInput} {res : Except SendFailure Message}
    (course : Dispatch.Course c input m res t) : Operated c m t (.send input)
  | process {e : QueueEvent} (processed : Processed c e m t) : Operated c m t (.process e)
  | giveUp {x : MessageId} {w : ω} (gaveUp : Dispatch.GivenUp x ⟨m, w, []⟩ t) :
    Operated c m t (.giveUp x)
  | sweep {batch : Nat} {res : Except StoreError Nat} (swept : Swept batch m res t) :
    Operated c m t (.sweep batch)

section

-- what an operation ensures is read off from its parts, never from its calls
attribute [local irreducible] Setting.Ensures

theorem ensures_operated (c : GatewayConfig) (op : Operation) (m : Memory) (w : ω) :
    (Solo.setting outside).Ensures (fun _ t => Operated c m t op) (op.program c) ⟨m, w, []⟩ := by
  cases op with
  | submit input => exact (ensures_submitted input m w).map fun _ _ _ submitted => .submit submitted
  | send input => exact (Dispatch.ensures_course c input m w).map fun _ _ _ course => .send course
  | process e => exact (ensures_processed c e m w).map fun _ _ _ processed => .process processed
  | giveUp x => exact (Dispatch.ensures_givenUp x _).map fun _ _ _ gaveUp => .giveUp gaveUp
  | sweep batch => exact (ensures_swept batch m w).map fun _ _ _ swept => .sweep swept

end

/-- An operation after others: its own calls come on top of theirs. -/
theorem Operation.exists_operated (outside : (c : Call) → ω → c.Answer × ω) (c : GatewayConfig)
    (op : Operation) (s : Solo ω) : ∃ t : Solo ω, Operated c s.memory t op ∧
      (op.after outside c s).memory = t.memory ∧
      (op.after outside c s).log = t.log ++ s.log :=
  run_of_ensures (Solo.ensures_after (s := s) (ensures_operated c op s.memory s.world))

/-! ## A sample of what lies outside -/

namespace Sample

/-- A network without trouble, clocks that stand still, and names in the order of their numbers;
the state is the next number. -/
def surroundings? : (c : Call) → Nat → Option (c.Answer × Nat)
  | .processPayload _, n => some (.ok (), n)
  | .openSession i, n => some (.ok ⟨i, true⟩, n)
  | .sessionReady _, n => some (true, n)
  | .showPresence _, n => some (.ok (), n)
  | .probe .., n => some (.ok [], n)
  | .upload .., n => some (.error .timeout, n)
  | .transmit .., n => some (.ok (), n)
  | .now, n => some (⟨0, 0⟩, n)
  | .elapsed, n => some ((0 : Nat), n)
  | .pause .., n => some (.elapsed, n)
  | .newMessageId, n => some (⟨BitVec.ofNat 128 n⟩, n + 1)
  | .newCycleId, n => some (⟨BitVec.ofNat 128 n⟩, n + 1)
  | .newPayloadId, n => some (⟨BitVec.ofNat 128 n⟩, n + 1)
  | .randomWords _, n => some ([], n)
  | .spawn _, n => some (n, n + 1)
  | _, _ => none

/-- Everything else is kept in a memory. -/
theorem isSome_answer? {c : Call} {n : Nat} (h : surroundings? c n = none) :
    (Memory.answer? c {}).isSome = true := by
  cases c <;> first | rfl | cases h

/-- An answer to every call; those that are kept in a memory are not asked for. -/
def surroundings (c : Call) (n : Nat) : c.Answer × Nat :=
  match h : surroundings? c n with
  | some a => a
  | none => (((Memory.answer? c {}).get (isSome_answer? h)).1, n)

end Sample

end Delivery

end MessageGateway
