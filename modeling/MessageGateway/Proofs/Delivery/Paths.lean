import MessageGateway.Proofs.Delivery.Alone
import MessageGateway.Proofs.Delivery.Events
import MessageGateway.Proofs.SideBySide

/-!
# The two paths of a text

A text is sent at once, or it is submitted and a worker sends it. The second path makes the record
earlier and reads the text back from an event, but the network cannot tell the two apart: it is
asked the same, and what it transmits leaves the same record. They differ only when nothing is
transmitted, since a text that was submitted has a record already.

## Main definitions

* `Delivery.remote t`: what the network was asked and answered
* `Delivery.desk network clock x`: surroundings of a run, with a clock of its own
* `Delivery.Alike s t`: two runs of which the network has heard the same
* `Delivery.viaQueue`: a text submitted, and its event dealt with

## Main results

* `Dispatch.approach_together`, `Dispatch.send_together`: the sends of the two paths side by side
* `Delivery.paths_agree`: the two paths of a text
-/

namespace MessageGateway

open Program Setting

variable {α β ν : Type}

/-! ## Kinds of calls -/

namespace Call

/-- The call is one of the session gateway or of a session. -/
def isRemote : Call → Bool
  | .openSession _ | .sessionReady _ | .showPresence _ | .probe .. | .upload .. | .transmit .. =>
    true
  | _ => false

/-- The call is one of instances, of the network, or of the clock by which a wait is measured. -/
def isCommon : Call → Bool
  | .findInstance _ | .updateInstance _ | .elapsed | .pause .. => true
  | c => c.isRemote

/-- The call is one of message records and of what they are made with. -/
def isOwn : Call → Bool
  | .findMessage _ | .createMessage _ | .updateMessage _ | .enqueue _ | .now | .newMessageId =>
    true
  | _ => false

end Call

namespace Delivery

/-- What the network was asked and answered, last one first. -/
def remote (t : Trace) : Trace :=
  t.filter fun e => e.call.isRemote

theorem remote_cons {t t' : Trace} (h : remote t = remote t') (e : Exchange) :
    remote (e :: t) = remote (e :: t') := by
  unfold remote at h ⊢
  rw [List.filter_cons, List.filter_cons, h]

/-- Surroundings in which the name `x` is drawn and the clock shows one time after the other, while
the `network` answers everything else that is not kept in the memory. -/
def desk (network : (c : Call) → ν → c.Answer × ν) (clock : Nat → Timestamp) (x : MessageId) :
    (c : Call) → ν × Nat → c.Answer × (ν × Nat)
  | .now, w => (clock w.2, (w.1, w.2 + 1))
  | .newMessageId, w => (x, w)
  | c, w => ((network c w.1).1, ((network c w.1).2, w.2))

/-- Two runs have the same instances, and the network has heard the same of both. -/
structure Alike (s t : Solo (ν × Nat)) : Prop where
  instances : s.memory.instances = t.memory.instances
  network : s.world.1 = t.world.1
  heard : remote s.log = remote t.log

variable {network : (c : Call) → ν → c.Answer × ν} {clock clock' : Nat → Timestamp}
  {x : MessageId} {c : Call} {s t u : Solo (ν × Nat)}

namespace Alike

theorem refl (s : Solo (ν × Nat)) : Alike s s :=
  ⟨rfl, rfl, rfl⟩

theorem symm (h : Alike s t) : Alike t s :=
  ⟨h.instances.symm, h.network.symm, h.heard.symm⟩

theorem trans (h : Alike s t) (h' : Alike t u) : Alike s u :=
  ⟨h.instances.trans h'.instances, h.network.trans h'.network, h.heard.trans h'.heard⟩

/-- **Common calls are answered alike.** -/
theorem answer (alike : Alike s t) (common : c.isCommon = true) :
    (Solo.answer (desk network clock x) c s).1 = (Solo.answer (desk network clock' x) c t).1 ∧
      Alike (Solo.answer (desk network clock x) c s).2
        (Solo.answer (desk network clock' x) c t).2 := by
  obtain ⟨instances, world, heard⟩ := alike
  cases c with
  | findInstance i =>
    simp only [Solo.answer, Memory.answer?, instances]
    exact ⟨rfl, instances, world, heard⟩
  | updateInstance r =>
    simp only [Solo.answer, Memory.answer?, instances, Memory.written]
    cases t.memory.instances.update r with
    | ok _ => exact ⟨rfl, rfl, world, heard⟩
    | error _ => exact ⟨rfl, instances, world, heard⟩
  | elapsed | pause | openSession | sessionReady | showPresence | probe | upload | transmit =>
    simp only [Solo.answer, Memory.answer?, desk, world]
    exact ⟨trivial, instances, rfl, remote_cons heard _⟩
  | _ => cases common

end Alike

/-- The network does not notice calls of message records. -/
theorem alike_answer (own : c.isOwn = true) :
    Alike s (Solo.answer (desk network clock x) c s).2 := by
  cases c with
  | findMessage y => exact ⟨rfl, rfl, rfl⟩
  | createMessage r =>
    simp only [Solo.answer, Memory.answer?, Memory.written]
    cases s.memory.messages.create r with
    | ok _ => exact ⟨rfl, rfl, rfl⟩
    | error _ => exact ⟨rfl, rfl, rfl⟩
  | updateMessage r =>
    simp only [Solo.answer, Memory.answer?, Memory.written]
    cases s.memory.messages.update r with
    | ok _ => exact ⟨rfl, rfl, rfl⟩
    | error _ => exact ⟨rfl, rfl, rfl⟩
  | enqueue e =>
    simp only [Solo.answer, Memory.answer?]
    cases s.memory.queue.enqueue e with
    | ok _ => exact ⟨rfl, rfl, rfl⟩
    | error _ => exact ⟨rfl, rfl, rfl⟩
  | now => exact ⟨rfl, rfl, rfl⟩
  | newMessageId => exact ⟨rfl, rfl, rfl⟩
  | _ => cases own

theorem ensures_own {p : Program α} (only : p.Only fun c => c.isOwn = true) :
    (Solo.setting (desk network clock x)).Ensures (fun _ t => Alike s t) p s := by
  have run : (Solo.setting (desk network clock x)).Ensures (fun _ _ => True) p s :=
    ensures_of_run trivial
  refine (run.frame (I := Alike s) only ?_ ?_ (.refl s)).mono fun _ _ _ hQ => hQ.2
  · rintro u _ rfl alike
    exact alike
  · intro c u a v own _ _ served alike
    have after : Alike u (Solo.answer (desk network clock x) c u).2 := alike_answer own
    rw [served] at after
    exact alike.trans after

/-- Every name that was drawn is `x`. -/
def Named (x : MessageId) (t : Trace) : Prop :=
  ∀ y, ⟨.newMessageId, y⟩ ∈ t → y = x

theorem named_nil (x : MessageId) : Named x [] := by
  rintro y ⟨⟩

theorem ensures_named (p : Program α) (named : Named x s.log) :
    (Solo.setting (desk network clock x)).Ensures (fun _ t => Named x t.log) p s := by
  have drawn : (Solo.setting (desk network clock x)).Ensures
      (fun _ t => ∀ e ∈ t.log, ∀ y, e = ⟨.newMessageId, y⟩ → y = x) p s := by
    refine Solo.ensures_answered p ?_ ?_
    · rintro c u a v served y ⟨⟩
      cases served
      rfl
    · rintro e he y rfl
      exact named y he
  exact drawn.mono fun _ _ _ drawn y hy => drawn _ hy y rfl

/-- `R` holds of what two programs come to, each on a desk of its own, with the same network. -/
abbrev OnDesks (network : (c : Call) → ν → c.Answer × ν) (clock clock' : Nat → Timestamp)
    (x : MessageId) (R : α → β → Solo (ν × Nat) → Solo (ν × Nat) → Prop) (p : Program α)
    (q : Program β) (s t : Solo (ν × Nat)) : Prop :=
  Together (Solo.answer (desk network clock x)) (Solo.answer (desk network clock' x)) R p q s t

/-- A program of common calls comes to the same on both desks. -/
theorem together_common {p : Program α} (only : p.Only fun c => c.isCommon = true)
    (alike : Alike s t) :
    OnDesks network clock clock' x (fun a b u v => a = b ∧ Alike u v) p p s t :=
  together_of_only only (fun common alike => alike.answer common) alike

/-- Programs that the network does not notice may differ. -/
theorem together_own {p : Program α} {q : Program β} (hp : p.Only fun c => c.isOwn = true)
    (hq : q.Only fun c => c.isOwn = true) (alike : Alike s t) :
    OnDesks network clock clock' x (fun _ _ u v => Alike u v) p q s t :=
  (together_of_ensures (ensures_own hp) (ensures_own hq)).mono fun _ _ _ _ h =>
    h.1.symm.trans (alike.trans h.2)

end Delivery

/-! ## Sends side by side -/

namespace Dispatch

open Delivery

-- programs are compared part by part, never call by call
attribute [local irreducible] Setting.Ensures Together

variable {network : (c : Call) → ν → c.Answer × ν} {clock clock' : Nat → Timestamp}
  {x : MessageId} {s t : Solo (ν × Nat)} {input input' : SendInput} {known known' : Option Message}
  {body : String}

/-- **The approach of a text comes to the same on both desks**, since nothing of a text depends on
the time. -/
theorem approach_together (c : GatewayConfig) (text : input.content = .text body)
    (alike : Alike s t) : OnDesks network clock clock' x (fun a b u v => a = b ∧ Alike u v)
      (approach c input).run (approach c input).run s t := by
  refine Together.bindExcept (together_common (checkInstance_only rfl) alike)
    (fun _ u v alike => ?_) fun e u v alike => ⟨rfl, alike⟩
  refine Together.bindExcept (together_common (checkSession_only rfl rfl fun _ => rfl) alike)
    (fun _ u v alike => ?_) fun e u v alike => ⟨rfl, alike⟩
  unfold prepare
  have ready : (awaitReady c.dispatch input.owner).Only fun c => c.isCommon = true :=
    awaitReady_only rfl rfl rfl fun _ => rfl
  refine Together.bindExcept (together_common (Only.orFail ready) alike)
    (fun _ u v alike => ?_) fun e u v alike => ⟨rfl, alike⟩
  refine Together.bindExcept (together_common (Only.orFail (resolve_only (fun _ => rfl) _)) alike)
    (fun address u v alike => ?_) fun e u v alike => ⟨rfl, alike⟩
  refine Together.bindExcept (together_common (Only.orFail (only_pure _)) alike)
    (fun _ u v alike => ?_) fun e u v alike => ⟨rfl, alike⟩
  rw [text]
  refine Together.bindExcept (together_common (only_pure _) alike)
    (fun _ u v alike => ?_) fun e u v alike => ⟨rfl, alike⟩
  -- the clocks differ, but the message that is built does not tell the time
  refine Together.bindLift (together_own (only_request rfl) (only_request rfl) alike)
    fun time time' u v alike => ?_
  refine Together.bindLift (together_own (only_pure _) (only_pure _) alike)
    fun words words' u v alike => ?_
  exact together_common (p := pure (Except.ok (address, Outbound.text body))) (only_pure _) alike

/-- Deliveries are alike to the network, whatever the records are. -/
theorem deliver_together (r r' : Message) (i : InstanceId) (address : Address) (o : Outbound)
    (alike : Alike s t) : OnDesks network clock clock' x (fun _ _ u v => Alike u v)
      (deliver r i address o).run (deliver r' i address o).run s t := by
  refine Together.bindLift (together_common (only_request rfl) alike) ?_
  rintro a _ u v ⟨rfl, alike⟩
  have settled (r : Message) (status : MessageStatus) :
      (settle r status).Only fun c => c.isOwn = true := settle_only rfl fun _ => rfl
  cases a with
  | ok _ => exact together_own (Only.map (settled r _)) (Only.map (settled r' _)) alike
  | error e =>
    refine together_own ?_ ?_ alike
    · exact Only.bindExcept (Only.map (settled r _)) fun _ => only_pure _
    · exact Only.bindExcept (Only.map (settled r' _)) fun _ => only_pure _

variable {r r' : Message} {address : Address} {o : Outbound} {a : Except TransportError Unit}

/-- No name that is drawn is taken. -/
theorem Clashed.false_of_named {text : String} (clashed : Clashed input s text t)
    (fresh : input.id = none → s.memory.messages.find? x = none) (named : Named x t.log) :
    False := by
  obtain ⟨r, time, taken, log⟩ := clashed.calls
  have drawn : r.id = x := by
    refine named r.id ?_
    rw [log]
    simp
  rw [drawn, Table.contains, fresh clashed.key] at taken
  cases taken

theorem ensures_stored (h : Known input known s.memory.messages)
    (fresh : input.id = none → s.memory.messages.find? x = none) (named : Named x s.log) :
    (Solo.setting (desk network clock x)).Ensures (fun res _ => ∃ m, res = .ok m)
      (store input known o).run s := by
  refine ((ensures_store_opened h o).and (ensures_named _ named)).mono ?_
  rintro res t - ⟨⟨r, rfl, -⟩ | ⟨text, -, clashed⟩, named⟩
  · exact ⟨r, rfl⟩
  · exact (clashed.false_of_named fresh named).elim

theorem ensures_delivered (h : Known input known s.memory.messages)
    (fresh : input.id = none → s.memory.messages.find? x = none) (named : Named x s.log) :
    (Solo.setting (desk network clock x)).Ensures
      (fun res t => Named x t.log ∧
        ∃ r a r', res = verdict r' a ∧ Delivered input address o s r a r' t)
      (conclude input known (address, o)).run s := by
  refine ((ensures_conclude h address o).and (ensures_named _ named)).mono ?_
  rintro res t - ⟨delivered | ⟨text, -, clashed⟩, named⟩
  · exact ⟨named, delivered⟩
  · exact (clashed.false_of_named fresh named).elim

/-- The record at the end of a delivery: a record that was there before is of the same message. -/
theorem Delivered.exists_row (delivered : Delivered input address o s r a r' t)
    (key : input.id = none ∨ input.id = some x) (named : Named x t.log)
    (like : ∀ r₀, s.memory.messages.find? x = some r₀ → r₀.owner = input.owner ∧
      r₀.recipient = input.recipient ∧ r₀.kind = input.content.kind) :
    ∃ created updated, t.memory.messages.find? x = some
      ⟨x, input.owner, input.recipient, input.content.kind, o.summary, outcome a, created,
        updated⟩ := by
  obtain ⟨entry, time, entered, eq, log⟩ := delivered.calls
  have id : r.id = x := by
    rcases key with key | key
    · cases entered with
      | again key' | anew key' =>
        rw [key] at key'
        cases key'
      | @named y _ _ _ eq =>
        rw [eq]
        refine named y ?_
        rw [log]
        simp
    · exact entered.eq_of_key key
  have same : r.owner = input.owner ∧ r.recipient = input.recipient ∧ r.kind = input.content.kind ∧
      r.payload = o.summary := by
    cases entered with
    | again _ found _ eq =>
      rw [eq] at id ⊢
      obtain ⟨owner, recipient, kind⟩ := like _ (id ▸ found)
      exact ⟨owner, recipient, kind, rfl⟩
    | anew _ _ eq | named _ _ eq =>
      rw [eq]
      exact ⟨rfl, rfl, rfl, rfl⟩
  obtain ⟨owner, recipient, kind, payload⟩ := same
  refine ⟨r.created, time, ?_⟩
  rw [delivered.messages, if_pos id.symm, eq, ← id, ← owner, ← recipient, ← kind, ← payload]

/-- What the network was asked last in a delivery. -/
theorem Delivered.remote_eq (delivered : Delivered input address o s r a r' t) :
    remote t.log = ⟨.transmit input.owner address o, a⟩ :: remote s.log := by
  obtain ⟨entry, time, entered, -, log⟩ := delivered.calls
  have silent : remote entry = [] := by
    cases entered <;> rfl
  rw [log, remote, List.filter_append, List.filter_append]
  exact congrArg (_ :: ·) (congrArg (· ++ remote s.log) silent)

/-- How the sends of one text on two desks end: both are refused for one reason, before anything is
stored, or the record of the message is the same on both, but for its times. -/
inductive Paired (x : MessageId) (old old' : MessageStore) (u v : Solo (ν × Nat)) :
    Except SendFailure Message → Except SendFailure Message → Prop
  | refused {e : DispatchError} (messages : u.memory.messages = old)
      (messages' : v.memory.messages = old') (idle : ∀ e ∈ u.log, e.Idle) :
    Paired x old old' u v (.error (.of e)) (.error (.of e))
  | delivered {r r' m m' : Message} {i : InstanceId} {address : Address} {o : Outbound}
      {a : Except TransportError Unit} (found : u.memory.messages.find? x = some r)
      (found' : v.memory.messages.find? x = some r')
      (same : r' = { r with created := r'.created, updated := r'.updated })
      (transmitted : ⟨.transmit i address o, a⟩ ∈ u.log) :
    Paired x old old' u v (verdict m a) (verdict m' a)

variable {owner : InstanceId} {recipient : String} {key : Option MessageId}
  {old old' : MessageStore} {time : Timestamp}

theorem conclude_together (hkey : key = none ∨ key = some x)
    (h : Known ⟨owner, recipient, .text body, key⟩ known s.memory.messages)
    (h' : Known ⟨owner, recipient, .text body, some x⟩ known' t.memory.messages)
    (fresh : s.memory.messages.find? x = none)
    (found : t.memory.messages.find? x =
      some (.make x owner recipient .text body .queued time))
    (named : Named x s.log) (named' : Named x t.log) (address : Address) (o : Outbound)
    (alike : Alike s t) :
    OnDesks network clock clock' x (fun res res' u v => Alike u v ∧ Paired x old old' u v res res')
      (conclude ⟨owner, recipient, .text body, key⟩ known (address, o)).run
      (conclude ⟨owner, recipient, .text body, some x⟩ known' (address, o)).run s t := by
  have own (input : SendInput) (known : Option Message) :
      (store input known o).run.Only fun c => c.isOwn = true :=
    store_only rfl rfl (fun _ => rfl) fun _ => rfl
  have both : OnDesks network clock clock' x (fun _ _ u v => Alike u v)
      (conclude ⟨owner, recipient, .text body, key⟩ known (address, o)).run
      (conclude ⟨owner, recipient, .text body, some x⟩ known' (address, o)).run s t := by
    refine Together.bind ((together_own (own _ _) (own _ _) alike).and (together_of_ensures
      (ensures_stored h (fun _ => fresh) named) (ensures_stored h' nofun named'))) ?_
    rintro _ _ u v ⟨alike, ⟨r, rfl⟩, r', rfl⟩
    exact deliver_together r r' owner address o alike
  refine (both.and (together_of_ensures (ensures_delivered h (fun _ => fresh) named)
    (ensures_delivered h' nofun named'))).mono ?_
  rintro _ _ u v
    ⟨alike, ⟨named, r, a, r', rfl, delivered⟩, named', r₁, a₁, r₁', rfl, delivered'⟩
  refine ⟨alike, ?_⟩
  -- the network has heard the same, so both transmissions were answered alike
  have heard := alike.heard
  rw [delivered.remote_eq, delivered'.remote_eq] at heard
  obtain ⟨eq, -⟩ := List.cons.inj heard
  cases eq
  obtain ⟨created, updated, row⟩ := delivered.exists_row hkey named fun r₀ found => by
    rw [fresh] at found
    cases found
  obtain ⟨created', updated', row'⟩ := delivered'.exists_row (.inr rfl) named' fun r₀ found' => by
    rw [found] at found'
    cases found'
    exact ⟨rfl, rfl, rfl⟩
  have last : ⟨.transmit owner address o, a⟩ ∈ remote u.log := by
    rw [delivered.remote_eq]
    exact List.mem_cons_self
  exact .delivered row row' rfl (List.mem_filter.1 last).1

/-- The look for the record that a send continues, after other calls. -/
theorem ensures_looked (input : SendInput) (named : Named x s.log) :
    (Solo.setting (desk network clock x)).Ensures
      (fun res t => (Alike s t ∧ Named x t.log) ∧ t.memory = s.memory ∧
        ((∀ e ∈ s.log, e.Idle) → ∀ e ∈ t.log, e.Idle) ∧ ∃ known, res = .ok known ∧
        (∀ r ∈ known, input.id = some r.id ∧ s.memory.messages.find? r.id = some r) ∧
        (known = none → ∀ y, input.id = some y → s.memory.messages.find? y = none))
      (existing input.id).run s := by
  have own : (existing input.id).run.Only fun c => c.isOwn = true := existing_only fun _ _ => rfl
  have looked : (Solo.setting (desk network clock x)).Ensures _ (existing input.id).run
      ⟨s.memory, s.world, []⟩ := ensures_existing_known input s.memory s.world
  refine (((ensures_own own).and (ensures_named _ named)).and (Solo.ensures_after looked)).mono ?_
  rintro res t - ⟨both, u, ⟨memory, idle', known, rfl, found, absent⟩, memory', log⟩
  refine ⟨both, memory'.trans memory, fun idle => ?_, known, rfl, ?_, absent⟩
  · rw [log]
    exact List.forall_mem_append.2 ⟨idle', idle⟩
  · exact fun r hr => ⟨(found r hr).1, (found r hr).2.1⟩

/-- Once both sides know whether they have a record, they are asked for the same. -/
theorem proceed_together (c : GatewayConfig) (hkey : key = none ∨ key = some x)
    (h : Known ⟨owner, recipient, .text body, key⟩ known s.memory.messages)
    (h' : Known ⟨owner, recipient, .text body, some x⟩ known' t.memory.messages)
    (fresh : s.memory.messages.find? x = none)
    (found : t.memory.messages.find? x =
      some (.make x owner recipient .text body .queued time))
    (named : Named x s.log) (named' : Named x t.log) (idle : ∀ e ∈ s.log, e.Idle)
    (alike : Alike s t) :
    OnDesks network clock clock' x (fun res res' u v => Alike u v ∧
        Paired x s.memory.messages t.memory.messages u v res res')
      (proceed c ⟨owner, recipient, .text body, key⟩ known).run
      (proceed c ⟨owner, recipient, .text body, some x⟩ known').run s t := by
  let direct : SendInput := ⟨owner, recipient, .text body, key⟩
  let queued : SendInput := ⟨owner, recipient, .text body, some x⟩
  rw [proceed_eq, proceed_eq]
  have approached : OnDesks network clock clock' x (fun a b u v => a = b ∧ Alike u v)
      (approach c direct).run (approach c queued).run s t := approach_together c rfl alike
  refine Together.bind (approached.and (together_of_ensures
    (((ensures_approach c direct s).and (ensures_approach_idle idle)).and (ensures_named _ named))
    ((ensures_approach c queued t).and (ensures_named _ named')))) ?_
  rintro res _ u v ⟨⟨rfl, alike⟩, ⟨⟨comes, idle⟩, named⟩, comes', named'⟩
  cases res with
  | error failure =>
    obtain ⟨spared, e, rfl, -⟩ := comes
    obtain ⟨spared', -⟩ := comes'
    exact together_pure ⟨alike, .refused spared.messages_eq spared'.messages_eq idle⟩
  | ok r =>
    obtain ⟨memory, -⟩ := comes
    obtain ⟨memory', -⟩ := comes'
    rw [← memory] at fresh h ⊢
    rw [← memory'] at found h' ⊢
    exact conclude_together hkey h h' fresh found named named' r.1 r.2 alike

/-- **The sends of one text on two desks**, of which only one has a record of it. -/
theorem send_together (c : GatewayConfig) (complete : (owner.isBlank || recipient.isEmpty) = false)
    (hkey : key = none ∨ key = some x) (fresh : s.memory.messages.find? x = none)
    (found : t.memory.messages.find? x =
      some (.make x owner recipient .text body .queued time))
    (named : Named x s.log) (named' : Named x t.log) (idle : ∀ e ∈ s.log, e.Idle)
    (alike : Alike s t) :
    OnDesks network clock clock' x (fun res res' u v => Alike u v ∧
        Paired x s.memory.messages t.memory.messages u v res res')
      (send c ⟨owner, recipient, .text body, key⟩)
      (send c ⟨owner, recipient, .text body, some x⟩) s t := by
  let direct : SendInput := ⟨owner, recipient, .text body, key⟩
  let queued : SendInput := ⟨owner, recipient, .text body, some x⟩
  unfold send
  rw [if_neg (by simp [complete]), if_neg (by simp [complete])]
  refine Together.bind (together_of_ensures (ensures_looked direct named)
    (ensures_looked queued named')) ?_
  rintro _ _ u v ⟨⟨⟨alikeₗ, named⟩, memory, still, known, rfl, hknown, -⟩,
    ⟨alikeᵣ, named'⟩, memory', -, known', rfl, hknown', absent'⟩
  have alike : Alike u v := alikeₗ.symm.trans (alike.trans alikeᵣ)
  -- on the left there is no record yet, on the right there is that of the submission
  have unnamed (y : MessageId) (hy : key = some y) : s.memory.messages.find? y = none := by
    rcases hkey with rfl | rfl
    · cases hy
    · cases hy
      exact fresh
  obtain rfl : known = none := by
    cases known with
    | none => rfl
    | some r =>
      obtain ⟨key', stored⟩ := hknown r rfl
      rw [unnamed r.id key'] at stored
      cases stored
  obtain rfl : known' = some (.make x owner recipient .text body .queued time) := by
    cases known' with
    | none =>
      rw [absent' rfl x rfl] at found
      cases found
    | some r =>
      obtain ⟨key', stored⟩ := hknown' r rfl
      cases key'
      exact stored.symm.trans found
  rw [← memory] at fresh unnamed ⊢
  rw [← memory'] at found ⊢
  have h : Known direct none u.memory.messages := by
    refine ⟨?_, fun _ => unnamed⟩
    rintro r ⟨⟩
  have h' : Known queued (some (.make x owner recipient .text body .queued time))
      v.memory.messages := by
    refine ⟨?_, nofun⟩
    rintro r ⟨⟩
    exact ⟨rfl, found, rfl⟩
  exact proceed_together c hkey h h' fresh found named named' (still idle) alike

end Dispatch

/-! ## The two paths -/

namespace Delivery

attribute [local irreducible] Setting.Ensures Together

/-- A text is submitted, and its event is dealt with. -/
def viaQueue (c : GatewayConfig) (input : EnqueueInput) : Program (Except DispatchError Unit) := do
  match ← submit input with
  | .ok r => return .ok (← processEvent c (.ofMessage r))
  | .error e => return .error e

/-- What a worker does with the event of a record. -/
theorem processEvent_ofMessage (c : GatewayConfig) (r : Message) :
    processEvent c (.ofMessage r) = (do
      match ← send c (.ofMessage r) with
      | .ok _ => pure ()
      | .error failure =>
        if failure.error.kind = .permanent then
          let _ ← bestEffort (failPending r.id)) := by
  unfold processEvent
  rw [SendInput.ofEvent_ofMessage]
  rfl

variable {network : (c : Call) → ν → c.Answer × ν} {clock clock' : Nat → Timestamp}
  {x : MessageId} {s t : Solo (ν × Nat)} {c : GatewayConfig} {m : Memory} {owner : InstanceId}
  {recipient body : String} {key : Option MessageId} {time : Timestamp}

/-- How the two paths of a text end, from the memory `m`: both reject the input, the direct send is
refused and the record of the submission is given up or stays, or the same record is on both
sides, but for its times. -/
inductive Matched (x : MessageId) (owner : InstanceId) (recipient : String) (m : Memory)
    (u v : Solo (ν × Nat)) : Except SendFailure Message → Except DispatchError Unit → Prop
  | rejected {e e' : DispatchError} (incomplete : (owner.isBlank || recipient.isEmpty) = true)
      (memory : u.memory = m) (memory' : v.memory = m) (untransmitted : u.log = []) :
    Matched x owner recipient m u v (.error (.of e)) (.error e')
  | refused {e : DispatchError} {r : Message}
      (complete : (owner.isBlank || recipient.isEmpty) = false)
      (messages : u.memory.messages = m.messages) (idle : ∀ e ∈ u.log, e.Idle)
      (found : v.memory.messages.find? x = some r)
      (status : r.status = if e.kind = .permanent then .failed else .queued) :
    Matched x owner recipient m u v (.error (.of e)) (.ok ())
  | delivered {r r' : Message} {i : InstanceId} {address : Address} {o : Outbound}
      {a : Except TransportError Unit} {res : Except SendFailure Message}
      (found : u.memory.messages.find? x = some r)
      (found' : v.memory.messages.find? x = some r')
      (same : r' = { r with created := r'.created, updated := r'.updated })
      (transmitted : ⟨.transmit i address o, a⟩ ∈ u.log) :
    Matched x owner recipient m u v res (.ok ())

/-- The worker of a text, beside its direct send. -/
theorem processEvent_together (c : GatewayConfig)
    (complete : (owner.isBlank || recipient.isEmpty) = false) (hkey : key = none ∨ key = some x)
    (memory : s.memory = m) (fresh : m.messages.find? x = none)
    (found : t.memory.messages.find? x =
      some (.make x owner recipient .text body .queued time))
    (named : Named x s.log) (named' : Named x t.log) (idle : ∀ e ∈ s.log, e.Idle)
    (alike : Alike s t) :
    OnDesks network clock clock' x
      (fun res _ u v => Alike u v ∧ Matched x owner recipient m u v res (.ok ()))
      (send c ⟨owner, recipient, .text body, key⟩)
      (processEvent c (.ofMessage (.make x owner recipient .text body .queued time))) s t := by
  rw [processEvent_ofMessage]
  subst memory
  refine (Dispatch.send_together c complete hkey fresh found named named' idle alike).bindRight ?_
  rintro _ _ u v ⟨alike, paired⟩
  cases paired with
  | @delivered r r' _ _ _ _ _ a stored stored' same transmitted =>
    cases a with
    | ok _ => exact ensures_of_run ⟨alike, .delivered stored stored' same transmitted⟩
    | error e => exact ensures_of_run ⟨alike, .delivered stored stored' same transmitted⟩
  | @refused e messages messages' idle =>
    dsimp only
    rw [← messages'] at found
    split
    · next permanent =>
      have permanent : e.kind = .permanent := permanent
      have own : (failPending x).Only fun c => c.isOwn = true :=
        failPending_only x rfl rfl fun _ => rfl
      refine ((Dispatch.ensures_givenUp x v).and (ensures_own own)).bindBestEffort
        fun _ w _ hQ => ensures_pure ?_
      rintro _ rfl
      obtain ⟨gaveUp, alike'⟩ := hQ w rfl
      refine ⟨alike.trans alike', ?_⟩
      cases gaveUp with
      | kept ended _ _ => cases ended _ found
      | failed found' _ eq after _ _ =>
        rw [found] at found'
        cases found'
        refine .refused complete messages idle (r := _) ((after x).trans (if_pos rfl)) ?_
        rw [eq, if_pos permanent]
    · next transient =>
      have transient : ¬e.kind = .permanent := transient
      refine ensures_of_run ⟨alike, .refused complete messages idle found ?_⟩
      rw [if_neg transient]
      rfl

theorem ensures_submitted_own (input : EnqueueInput) (empty : s.log = []) :
    (Solo.setting (desk network clock x)).Ensures
      (fun res t => Alike s t ∧ Named x t.log ∧ Submitted input s.memory res t)
      (submit input) s := by
  obtain ⟨m, w, log⟩ := s
  obtain rfl : log = [] := empty
  have own : (submit input).Only fun c => c.isOwn = true :=
    submit_only input rfl rfl (fun _ => rfl) fun _ => rfl
  exact (ensures_own own).and ((ensures_named _ (named_nil x)).and (ensures_submitted input m w))

/-- The submission of a text under a name that is free. -/
theorem ensures_submitted_fresh {input : EnqueueInput} (complete : input.validate = .ok ())
    (fresh : s.memory.messages.find? x = none) (empty : s.log = []) :
    (Solo.setting (desk network clock x)).Ensures
      (fun res t => Alike s t ∧ Named x t.log ∧ ∃ time,
        res = .ok (.make x input.owner input.recipient .text input.text .queued time) ∧
        t.memory.messages.find? x =
          some (.make x input.owner input.recipient .text input.text .queued time))
      (submit input) s := by
  refine (ensures_submitted_own input empty).mono ?_
  rintro res t - ⟨alike, named, submitted⟩
  refine ⟨alike, named, ?_⟩
  cases submitted with
  | rejected invalid =>
    rw [complete] at invalid
    cases invalid
  | clashed _ _ calls =>
    obtain ⟨r, time, taken, log⟩ := calls
    rw [named r.id (by rw [log]; simp), Table.contains, fresh] at taken
    cases taken
  | @accepted y time r _ _ _ _ eq messages _ log =>
    obtain rfl : y = x := named y (by rw [log]; simp)
    rw [eq] at messages ⊢
    exact ⟨time, rfl, (messages y).trans (if_pos rfl)⟩

/-- The submission of an input that is not complete. -/
theorem ensures_submitted_invalid {input : EnqueueInput} {e : DispatchError}
    (invalid : input.validate = .error e) (empty : s.log = []) :
    (Solo.setting (desk network clock x)).Ensures
      (fun res t => Alike s t ∧ t.memory = s.memory ∧ ∃ e, res = .error e) (submit input) s := by
  refine (ensures_submitted_own input empty).mono ?_
  rintro res t - ⟨alike, -, submitted⟩
  cases submitted with
  | rejected _ memory => exact ⟨alike, memory, _, rfl⟩
  | clashed valid =>
    rw [invalid] at valid
    cases valid
  | accepted valid =>
    rw [invalid] at valid
    cases valid

/-- **The two paths side by side**, from one state. -/
theorem viaQueue_together (c : GatewayConfig) (nonempty : body ≠ "")
    (hkey : key = none ∨ key = some x) (fresh : s.memory.messages.find? x = none)
    (empty : s.log = []) :
    OnDesks network clock clock' x
      (fun res res' u v => Alike u v ∧ Matched x owner recipient s.memory u v res res')
      (send c ⟨owner, recipient, .text body, key⟩) (viaQueue c ⟨owner, recipient, "text", body⟩)
      s s := by
  let input : EnqueueInput := ⟨owner, recipient, "text", body⟩
  have named : Named x s.log := by
    rw [empty]
    exact named_nil x
  unfold viaQueue
  by_cases incomplete : (owner.isBlank || recipient.isEmpty) = true
  · have invalid : input.validate =
        .error (.invalidPayload "instance_id, to and text are required") := by
      unfold EnqueueInput.validate
      rw [if_pos (by simp [input, incomplete])]
    refine Together.ofRight (ensures_submitted_invalid invalid empty) ?_
    rintro _ t ⟨alike, memory, e, rfl⟩
    unfold send
    rw [if_pos incomplete]
    exact together_pure ⟨alike, .rejected incomplete rfl memory empty⟩
  · have complete := Bool.not_eq_true _ ▸ incomplete
    have text : MessageKind.parse? (Text.trim input.kind) = some .text :=
      MessageKind.parse?_trim_name .text
    have valid : input.validate = .ok () := by
      unfold EnqueueInput.validate
      rw [if_neg (by simp [input, complete, nonempty]), if_pos text]
    refine Together.ofRight (ensures_submitted_fresh valid fresh empty) ?_
    rintro res t ⟨alike, named', time, rfl, found⟩
    have idle : ∀ e ∈ s.log, e.Idle := by
      rw [empty]
      exact List.forall_mem_nil _
    refine Together.bindRight
      (processEvent_together c complete hkey rfl fresh found named named' idle alike) ?_
    rintro res ⟨⟩ u v matched
    exact ensures_of_run matched

theorem mem_remote {e : Exchange} {t : Trace} (h : e.call.isRemote = true) :
    e ∈ remote t ↔ e ∈ t := by
  rw [remote, List.mem_filter]
  exact and_iff_left h

/-- **A text comes to the same on both paths.** A name `x` that is free is drawn, or given to the
direct send. Whatever the network does, and whenever each of the paths is taken, the network is
asked the same things in the same order and so transmits the same. When it does, the records of
the message are the same but for their times. When the direct send fails without a transmission,
the record of the submission has failed if that failure will not pass, and else is still queued;
an input that is not complete leaves no trace on either path. -/
theorem paths_agree (c : GatewayConfig) (network : (c : Call) → ν → c.Answer × ν) (n : ν)
    (clock clock' : Nat → Timestamp) (m : Memory) {x : MessageId}
    (fresh : m.messages.find? x = none) {key : Option MessageId} (hkey : key = none ∨ key = some x)
    (owner : InstanceId) (recipient : String) {body : String} (nonempty : body ≠ "") :
    let direct := (send c ⟨owner, recipient, .text body, key⟩).run
      (Solo.answer (desk network clock x)) ⟨m, (n, 0), []⟩
    let queued := (viaQueue c ⟨owner, recipient, "text", body⟩).run
      (Solo.answer (desk network clock' x)) ⟨m, (n, 0), []⟩
    remote direct.2.log = remote queued.2.log ∧
      (∀ i address o a, ⟨.transmit i address o, a⟩ ∈ direct.2.log ↔
        ⟨.transmit i address o, a⟩ ∈ queued.2.log) ∧
      ((∃ e ∈ direct.2.log, e.call.isTransmission = true) →
        ∃ r r', direct.2.memory.messages.find? x = some r ∧
          queued.2.memory.messages.find? x = some r' ∧
          r' = { r with created := r'.created, updated := r'.updated }) ∧
      ∀ failure, direct.1 = .error failure → (∀ e ∈ direct.2.log, e.call.isTransmission = false) →
        if owner.isBlank || recipient.isEmpty then
          (∃ e, queued.1 = .error e) ∧ direct.2.memory = m ∧ queued.2.memory = m
        else direct.2.memory.messages = m.messages ∧
          ∃ r, queued.2.memory.messages.find? x = some r ∧
            r.status = if failure.error.kind = .permanent then .failed else .queued := by
  intro direct queued
  have both : Alike direct.2 queued.2 ∧
      Matched x owner recipient m direct.2 queued.2 direct.1 queued.1 :=
    (viaQueue_together (s := ⟨m, (n, 0), []⟩) c nonempty hkey fresh rfl).run
  obtain ⟨⟨-, -, heard⟩, matched⟩ := both
  -- from here on the two runs are known by their ends alone
  generalize direct = u at *
  generalize queued = v at *
  obtain ⟨res, u⟩ := u
  obtain ⟨res', v⟩ := v
  dsimp only at *
  refine ⟨heard, fun i address o a => ?_, ?_, ?_⟩
  · rw [← mem_remote rfl, heard, mem_remote rfl]
  · rintro ⟨e, he, transmits⟩
    cases matched with
    | rejected _ _ _ untransmitted =>
      rw [untransmitted] at he
      cases he
    | refused _ _ idle =>
      rw [(idle e he).untransmitted] at transmits
      cases transmits
    | delivered found found' same => exact ⟨_, _, found, found', same⟩
  · rintro failure rfl untransmitted
    cases matched with
    | rejected incomplete memory memory' =>
      rw [if_pos incomplete]
      exact ⟨⟨_, rfl⟩, memory, memory'⟩
    | refused complete messages _ found status =>
      rw [if_neg (by simp [complete])]
      exact ⟨messages, _, found, status⟩
    | delivered _ _ _ transmitted =>
      cases untransmitted _ transmitted

section

-- the runs are evaluated once, and not again wherever they are compared
attribute [local irreducible] Program.run

/-- A text whose name is drawn, on two desks of which the clocks differ. -/
theorem paths_agree_sample :
    let start : Solo (Nat × Nat) := ⟨Sample.memory, (0, 0), []⟩
    let direct := (send {} ⟨⟨"A"⟩, "1@g.us", .text "hi", none⟩).run
      (Solo.answer (desk Sample.surroundings (fun _ => ⟨0, 0⟩) ⟨7⟩)) start
    let queued := (viaQueue {} ⟨⟨"A"⟩, "1@g.us", "text", "hi"⟩).run
      (Solo.answer (desk Sample.surroundings (fun k => ⟨k, 0⟩) ⟨7⟩)) start
    (∃ e ∈ direct.2.log, e.call.isTransmission = true) ∧
      remote direct.2.log = remote queued.2.log ∧
      ∃ r r', direct.2.memory.messages.find? ⟨7⟩ = some r ∧
        queued.2.memory.messages.find? ⟨7⟩ = some r' ∧
        r' = { r with created := r'.created, updated := r'.updated } := by
  intro start direct queued
  have agree := paths_agree {} Sample.surroundings 0 (fun _ => ⟨0, 0⟩) (fun k => ⟨k, 0⟩)
    Sample.memory (x := ⟨7⟩) rfl (.inl rfl) ⟨"A"⟩ "1@g.us" (show "hi" ≠ "" by decide)
  have transmitted : ∃ e ∈ direct.2.log, e.call.isTransmission = true :=
    List.any_eq_true.1 (by decide +kernel)
  exact ⟨transmitted, agree.1, agree.2.2.1 transmitted⟩

end

end Delivery

end MessageGateway
