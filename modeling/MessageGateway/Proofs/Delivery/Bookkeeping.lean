import MessageGateway.Proofs.Asides
import MessageGateway.Proofs.Delivery.Alone

/-!
# Bookkeeping

A send, a submission and the work on an event do some things only for the record: they lower the
status of an instance whose session is gone, have it show presence, store the outcome of a
transmission, put an event into the queue, and give a message up. Whether these succeed makes no
difference to the result, nor to what is transmitted.

## Main definitions

* `Delivery.isBookkeeping c t`: the call `c`, made after the calls `t`, is one of these
* `Delivery.transmitted t`: the transmissions of a trace

## Main results

* `Delivery.send_inStep`, `Delivery.submit_inStep`: sends, and submissions, of which only the
  bookkeeping differs are in step
* `Delivery.bookkeeping_without_effect`: bookkeeping changes no result and no transmission
-/

namespace MessageGateway

open Program Setting Dispatch

namespace Delivery

/-- The call opens a session. -/
def opensSession : Call → Bool
  | .openSession _ => true
  | _ => false

/-- The call is made only for the record. The instance is read again once its session was asked for,
and the message is written again once it was transmitted. -/
def isBookkeeping : Call → Trace → Bool
  | .updateInstance _, _ | .showPresence _, _ | .enqueue _, _ => true
  | .findInstance _, t => t.any fun e => opensSession e.call
  | .updateMessage _, t => t.any fun e => e.call.isTransmission
  | _, _ => false

/-- The transmissions of a trace, with their answers. -/
def transmitted (t : Trace) : Trace :=
  t.filter fun e => e.call.isTransmission

/-- No session was asked for. -/
def Unopened (t : Trace) : Prop :=
  ∀ e ∈ t, opensSession e.call = false

/-- Nothing was transmitted. -/
def Untried (t : Trace) : Prop :=
  ∀ e ∈ t, e.call.isTransmission = false

/-- Something was transmitted. -/
def Tried (t : Trace) : Prop :=
  (t.any fun e => e.call.isTransmission) = true

/-- Nothing was done but to look at the message and at the instance. -/
def Fresh (t : Trace) : Prop :=
  Unopened t ∧ Untried t

variable {α ε : Type} {c : Call} {a : c.Answer} {t u : Trace} {i : InstanceId}

/-! ## Kinds of calls -/

theorem isBookkeeping_findInstance (h : Unopened t) : isBookkeeping (.findInstance i) t = false := by
  simpa [isBookkeeping, Unopened] using h

theorem isBookkeeping_updateMessage {m : Message} (h : Untried t) :
    isBookkeeping (.updateMessage m) t = false := by
  simpa [isBookkeeping, Untried] using h

theorem Untried.cons (h : Untried t) (quiet : c.isTransmission = false) :
    Untried (⟨c, a⟩ :: t) :=
  List.forall_mem_cons.2 ⟨quiet, h⟩

theorem Fresh.cons (h : Fresh t) (unopened : opensSession c = false)
    (quiet : c.isTransmission = false) : Fresh (⟨c, a⟩ :: t) :=
  ⟨List.forall_mem_cons.2 ⟨unopened, h.1⟩, h.2.cons quiet⟩

theorem Tried.cons (h : Tried t) (e : Exchange) : Tried (e :: t) := by
  unfold Tried at h ⊢
  rw [List.any_cons, h, Bool.or_true]

/-- No transmission is made only for the record. -/
theorem transmitted_main (t : Trace) : transmitted (t.main isBookkeeping) = transmitted t := by
  induction t with
  | nil => rfl
  | cons e t ih =>
    obtain ⟨c, a⟩ := e
    cases h : isBookkeeping c t with
    | true =>
      have quiet : c.isTransmission = false := by
        cases c <;> first | rfl | cases h
      rw [Trace.main_cons_of_aside h, ih]
      simp [transmitted, quiet]
    | false =>
      rw [Trace.main_cons h]
      simp only [transmitted] at ih ⊢
      rw [List.filter_cons, List.filter_cons, ih]

theorem transmitted_run {f : Oracle} {p : Program α}
    (only : p.Only fun c => c.isTransmission = false) (t : Trace) :
    transmitted (p.run f.answer t).2 = transmitted t := by
  induction p generalizing t with
  | done a => rfl
  | ask c next ih =>
    rw [run_ask]
    refine (ih _ (only.2 _) _).trans ?_
    simp [transmitted, Oracle.answer, only.1]

/-- What transmits nothing may come after two runs that have transmitted the same. -/
theorem transmitted_bind {β : Type} {f g : Oracle} {p : Program α} {k : α → Program β}
    (same : transmitted (p.run f.answer t).2 = transmitted (p.run g.answer u).2)
    (only : ∀ a, (k a).Only fun c => c.isTransmission = false) :
    transmitted ((p >>= k).run f.answer t).2 = transmitted ((p >>= k).run g.answer u).2 := by
  rw [run_bind, run_bind, transmitted_run (only _), transmitted_run (only _), same]

/-! ## Programs in step -/

/-- Two runs of the program of which only the bookkeeping differs come to the same, and `K` holds of
the calls of each. -/
abbrev Indifferent (K : Trace → Prop) (p : Program α) (t u : Trace) : Prop :=
  InStep isBookkeeping (Agree K) p p t u

theorem existing_inStep (id : Option MessageId) (ht : Fresh t) (hu : Fresh u) :
    Indifferent Fresh (existing id).run t u := by
  have only : (existing id).run.Only fun c => ∃ x, c = .findMessage x :=
    existing_only fun x _ => ⟨x, rfl⟩
  refine inStep_only only ?_ ?_ ht hu
  · rintro _ t ⟨x, rfl⟩ _
    rfl
  · rintro _ a t ⟨x, rfl⟩ fresh
    exact fresh.cons rfl rfl

theorem checkInstance_inStep (i : InstanceId) (ht : Fresh t) (hu : Fresh u) :
    Indifferent Fresh (checkInstance i).run t u := by
  have only : (checkInstance i).run.Only fun c => c = .findInstance i := checkInstance_only rfl
  refine inStep_only only ?_ ?_ ht hu
  · rintro _ t rfl fresh
    exact isBookkeeping_findInstance fresh.1
  · rintro _ a t rfl fresh
    exact fresh.cons rfl rfl

/-- A downgrade is bookkeeping once the session was asked for. -/
theorem aside_downgrade (i : InstanceId) (opened : (t.any fun e => opensSession e.call) = true)
    (ht : Untried t) : Aside isBookkeeping (fun _ u => Untried u) (downgrade i) t := by
  have find : Aside isBookkeeping (fun _ u => Untried u) (findInstance i) t :=
    ensures_call opened fun _ _ => ht.cons rfl
  refine find.bind fun r u _ hQ => ?_
  have hu := hQ u rfl
  cases r with
  | error e => exact ensures_done hu
  | ok r =>
    have update : Aside isBookkeeping (fun _ u => Untried u)
        (updateInstance { r with status := .error }) u :=
      ensures_call rfl fun _ _ => hu.cons rfl
    exact update.bindBestEffort fun _ _ _ hQ => ensures_done (hQ _ rfl)

theorem checkSession_inStep (i : InstanceId) (ht : Fresh t) (hu : Fresh u) :
    Indifferent Untried (checkSession i).run t u := by
  have opening : Indifferent (fun t => Untried t ∧ (t.any fun e => opensSession e.call) = true)
      (openSession i) t u :=
    inStep_request (c := .openSession i) rfl rfl fun _ =>
      ⟨rfl, ⟨ht.2.cons rfl, rfl⟩, hu.2.cons rfl, rfl⟩
  refine opening.bindLift fun session t u ht hu => ?_
  have lost : Indifferent Untried (do
      downgrade i
      throw (.of (.notConnected i)) : ExceptT SendFailure Program Unit).run t u := by
    have lowered := inStep_asides (aside_downgrade i ht.2 ht.1) (aside_downgrade i hu.2 hu.1)
    rw [liftM_bind_run]
    exact lowered.bind fun _ _ _ _ ⟨ht, hu⟩ => inStep_pure ⟨rfl, ht, hu⟩
  cases session with
  | ok session =>
    dsimp only
    split
    · exact inStep_pure ⟨rfl, ht.1, hu.1⟩
    · exact lost
  | error e => exact lost

/-- A call that is never made for the record, and transmits nothing. -/
theorem ask_inStep (primary : ∀ t, isBookkeeping c t = false) (quiet : c.isTransmission = false)
    (ht : Untried t) (hu : Untried u) : Indifferent Untried (request c) t u :=
  inStep_request (primary t) (primary u) fun _ => ⟨rfl, ht.cons quiet, hu.cons quiet⟩

/-- The session may show presence or not. -/
theorem showPresence_inStep (i : InstanceId) (ht : Untried t) (hu : Untried u) :
    InStep isBookkeeping (fun _ _ t u => Untried t ∧ Untried u) (bestEffort (showPresence i))
      (bestEffort (showPresence i)) t u := by
  have shown {t : Trace} (ht : Untried t) :
      Aside isBookkeeping (fun _ u => Untried u) (bestEffort (showPresence i)) t := by
    have presence : Aside isBookkeeping (fun _ u => Untried u) (showPresence i) t :=
      ensures_call rfl fun _ _ => ht.cons rfl
    exact presence.map fun _ _ _ hQ => hQ
  exact inStep_asides (shown ht) (shown hu)

/-- **The readiness gate**: whether presence could be shown makes no difference to it. -/
theorem lookUntilReady_inStep (c : DispatchConfig) (i : InstanceId) (start looks : Nat)
    (shown : Bool) (ht : Untried t) (hu : Untried u) :
    Indifferent Untried (lookUntilReady c i start looks shown) t u := by
  induction looks generalizing shown t u with
  | zero => exact inStep_pure ⟨rfl, ht, hu⟩
  | succ looks ih =>
    unfold lookUntilReady
    refine (ask_inStep (fun _ => rfl) rfl ht hu).bindAgree fun ready t u ht hu => ?_
    cases ready with
    | true => exact inStep_pure ⟨rfl, ht, hu⟩
    | false =>
      refine (ask_inStep (fun _ => rfl) rfl ht hu).bindAgree fun time t u ht hu => ?_
      split
      · exact inStep_pure ⟨rfl, ht, hu⟩
      · have sleep (deadline : Nat) (shown : Bool) {t u : Trace} (ht : Untried t) (hu : Untried u) :
            Indifferent Untried (do
              sleepUntil deadline
              lookUntilReady c i start looks shown) t u := by
          refine InStep.bindAgree (K := Untried) ?_ fun _ _ _ ht hu => ih shown ht hu
          exact (ask_inStep (fun _ => rfl) rfl ht hu).bindAgree fun _ _ _ ht hu =>
            inStep_pure ⟨rfl, ht, hu⟩
        dsimp only
        split
        · exact (showPresence_inStep i ht hu).bind fun _ _ _ _ h => sleep _ _ h.1 h.2
        · exact sleep _ _ ht hu

theorem awaitReady_inStep (c : DispatchConfig) (i : InstanceId) (ht : Untried t) (hu : Untried u) :
    Indifferent Untried (awaitReady c i) t u := by
  refine (ask_inStep (fun _ => rfl) rfl ht hu).bindAgree fun start t u ht hu => ?_
  refine (lookUntilReady_inStep c i start _ false ht hu).bindAgree fun ready t u ht hu => ?_
  cases ready with
  | true => exact inStep_pure ⟨rfl, ht, hu⟩
  | false => exact inStep_pure ⟨rfl, ht, hu⟩

/-- The call is no bookkeeping as long as nothing was transmitted, and transmits nothing. -/
def IsPlain (c : Call) : Prop :=
  c.isTransmission = false ∧ ∀ t, Untried t → isBookkeeping c t = false

theorem plain_inStep {p : Program α} (only : p.Only IsPlain) (ht : Untried t) (hu : Untried u) :
    Indifferent Untried p t u :=
  inStep_only only (fun _ t plain ht => plain.2 t ht) (fun _ _ _ plain ht => ht.cons plain.1) ht hu

theorem prepare_inStep (c : GatewayConfig) (input : SendInput) (ht : Untried t) (hu : Untried u) :
    Indifferent Untried (prepare c input).run t u := by
  have plain {c : Call} (quiet : c.isTransmission = false)
      (primary : ∀ t, isBookkeeping c t = false) : IsPlain c :=
    ⟨quiet, fun t _ => primary t⟩
  have ready : Indifferent Untried (orFail .of (awaitReady c.dispatch input.owner) :
      ExceptT SendFailure Program Unit).run t u :=
    (awaitReady_inStep c.dispatch input.owner ht hu).bindAgree fun _ _ _ ht hu =>
      inStep_pure ⟨rfl, ht, hu⟩
  refine ready.bindExcept (fun _ t u ht hu => plain_inStep ?_ ht hu) fun _ => id
  refine Only.bindExcept (Only.orFail (resolve_only (fun _ => plain rfl fun _ => rfl) _))
    fun address => ?_
  refine Only.bindExcept (Only.orFail (only_pure _)) fun _ => ?_
  refine Only.bindExcept (uploadMedia_only (fun _ _ => plain rfl fun _ => rfl) _) fun uploaded => ?_
  refine Only.bindExcept (Only.map (only_request (plain rfl fun _ => rfl))) fun time => ?_
  refine Only.bindExcept (Only.map (waveformWords_only (fun _ => plain rfl fun _ => rfl) _))
    fun words => ?_
  exact Only.bindExcept (Only.orFail (only_pure _)) fun outbound => only_pure _

/-- Storing the record is no bookkeeping. -/
theorem store_inStep (input : SendInput) (known : Option Message) (outbound : Outbound)
    (ht : Untried t) (hu : Untried u) :
    Indifferent Untried (Dispatch.store input known outbound).run t u := by
  refine plain_inStep (store_only ?_ ?_ ?_ ?_) ht hu
  · exact ⟨rfl, fun _ _ => rfl⟩
  · exact ⟨rfl, fun _ _ => rfl⟩
  · exact fun _ => ⟨rfl, fun _ _ => rfl⟩
  · exact fun _ => ⟨rfl, fun _ => isBookkeeping_updateMessage⟩

/-- The outcome of a transmission may be stored or not. -/
theorem settle_inStep (m : Message) (status : MessageStatus) (ht : Tried t) (hu : Tried u) :
    Indifferent (fun _ => True) (settle m status) t u := by
  have clock : Indifferent Tried now t u :=
    inStep_request (c := .now) rfl rfl fun _ => ⟨rfl, ht.cons _, hu.cons _⟩
  refine clock.bindAgree fun time t u ht hu => ?_
  split
  · exact inStep_pure ⟨rfl, trivial, trivial⟩
  · next m' _ =>
    have update {t : Trace} (ht : Tried t) :
        Aside isBookkeeping (fun _ _ => True) (bestEffort (updateMessage m')) t :=
      Ensures.map (ensures_call ht fun _ _ => trivial) fun _ _ _ => id
    exact (inStep_asides (update ht) (update hu)).bind fun _ _ _ _ _ =>
      inStep_pure ⟨rfl, trivial, trivial⟩

theorem deliver_inStep (m : Message) (i : InstanceId) (address : Address) (outbound : Outbound) :
    Indifferent (fun _ => True) (deliver m i address outbound).run t u := by
  have transmission : Indifferent Tried (transmit i address outbound) t u :=
    inStep_request (c := .transmit i address outbound) rfl rfl fun _ => ⟨rfl, rfl, rfl⟩
  refine transmission.bindLift fun answer t u ht hu => ?_
  cases answer with
  | ok _ =>
    exact (settle_inStep m .sent ht hu).bindAgree fun _ _ _ _ _ =>
      inStep_pure ⟨rfl, trivial, trivial⟩
  | error e =>
    exact (settle_inStep m .failed ht hu).bindLift fun _ _ _ _ _ =>
      inStep_pure ⟨rfl, trivial, trivial⟩

/-- **A send is in step with itself**, however its bookkeeping goes. -/
theorem send_inStep (c : GatewayConfig) (input : SendInput) :
    Indifferent (fun _ => True) (send c input) [] [] := by
  have fresh : Fresh [] := ⟨List.forall_mem_nil _, List.forall_mem_nil _⟩
  unfold MessageGateway.send
  split
  · exact inStep_pure ⟨rfl, trivial, trivial⟩
  · refine (existing_inStep input.id fresh fresh).bindExcept (fun known t u ht hu => ?_)
      fun _ _ => trivial
    split
    · exact inStep_pure ⟨rfl, trivial, trivial⟩
    · unfold proceed
      refine (checkInstance_inStep input.owner ht hu).bindExcept (fun _ t u ht hu => ?_)
        fun _ _ => trivial
      refine (checkSession_inStep input.owner ht hu).bindExcept (fun _ t u ht hu => ?_)
        fun _ _ => trivial
      refine (prepare_inStep c input ht hu).bindExcept (fun (address, outbound) t u ht hu => ?_)
        fun _ _ => trivial
      refine (store_inStep input known outbound ht hu).bindExcept (fun m t u ht hu => ?_)
        fun _ _ => trivial
      exact deliver_inStep m input.owner address outbound

/-- **A submission is in step with itself**, whether or not the queue takes its event. -/
theorem submit_inStep (input : EnqueueInput) :
    Indifferent (fun _ => True) (submit input) [] [] := by
  have untried : Untried [] := List.forall_mem_nil _
  have valid : Indifferent Untried (orFail (fun e => e) (pure input.validate) :
      ExceptT DispatchError Program Unit).run [] [] :=
    inStep_pure ⟨rfl, untried, untried⟩
  refine valid.bindExcept (fun _ t u ht hu => ?_) fun _ _ => trivial
  refine (ask_inStep (c := .newMessageId) (fun _ => rfl) rfl ht hu).bindLift fun name t u ht hu => ?_
  refine (ask_inStep (c := .now) (fun _ => rfl) rfl ht hu).bindLift fun time t u ht hu => ?_
  have created (m : Message) : Indifferent Untried
      (orFail .store (createMessage m) : ExceptT DispatchError Program Message).run t u :=
    plain_inStep (Only.orFail (only_request ⟨rfl, fun _ _ => rfl⟩)) ht hu
  refine (created _).bindExcept (fun m t u _ _ => ?_) fun _ _ => trivial
  have queued (t : Trace) :
      Aside isBookkeeping (fun _ _ => True) (bestEffort (enqueue (.ofMessage m))) t :=
    Ensures.map (ensures_call rfl fun _ _ => trivial) fun _ _ _ => id
  rw [liftM_bind_run]
  exact (inStep_asides (queued t) (queued u)).bind fun _ _ _ _ _ =>
    inStep_pure ⟨rfl, trivial, trivial⟩

/-! ## What bookkeeping does not change -/

variable {f g : Oracle}

theorem Indifferent.result {p : Program α} (h : Indifferent (fun _ => True) p [] [])
    (alike : Oracle.Alike isBookkeeping p f g) :
    (p.run f.answer []).1 = (p.run g.answer []).1 ∧
      transmitted (p.run f.answer []).2 = transmitted (p.run g.answer []).2 := by
  obtain ⟨⟨same, -, -⟩, main⟩ := h.run alike .start .start rfl
  refine ⟨same, ?_⟩
  rw [← transmitted_main, main, transmitted_main]

/-- **Bookkeeping has no effect.** All other calls of a send are answered alike, when the same has
been heard before. Then the send has the same result, with the same record or the same error; a
submission has the same result; and the work on an event transmits the same, also when the message
is given up in one run and the giving up fails in the other. -/
theorem bookkeeping_without_effect (c : GatewayConfig) (f g : Oracle) :
    (∀ input, Oracle.Alike isBookkeeping (send c input) f g →
      ((send c input).run f.answer []).1 = ((send c input).run g.answer []).1) ∧
    (∀ input, Oracle.Alike isBookkeeping (submit input) f g →
      ((submit input).run f.answer []).1 = ((submit input).run g.answer []).1) ∧
    ∀ e, (∀ input, SendInput.ofEvent e = .ok input →
        Oracle.Alike isBookkeeping (send c input) f g) →
      transmitted ((processEvent c e).run f.answer []).2 =
        transmitted ((processEvent c e).run g.answer []).2 := by
  refine ⟨fun input alike => ((send_inStep c input).result alike).1,
    fun input alike => ((submit_inStep input).result alike).1, fun e alike => ?_⟩
  have giveUp : (do let _ ← bestEffort (failPending e.id) : Program Unit).Only
      fun c => c.isTransmission = false :=
    Only.bind (Only.bestEffort (failPending_only e.id rfl rfl fun _ => rfl)) fun _ => only_pure _
  unfold processEvent
  split
  · rw [transmitted_run giveUp, transmitted_run giveUp]
  · next input asked =>
    have same := ((send_inStep c input).result (alike input asked)).2
    refine transmitted_bind same fun r => ?_
    cases r with
    | ok m => exact only_pure _
    | error failure =>
      dsimp only
      split
      · exact giveUp
      · exact only_pure _

/-! ## Sample runs -/

namespace Sample

/-- An answer to every call; instances are active, and nothing fails. -/
def consent : (c : Call) → c.Answer
  | .findInstance i => .ok (.make i .active)
  | c => (surroundings c 0).1

/-- An answer to every call; what may be made for the record fails. -/
def refusal : (c : Call) → c.Answer
  | .findInstance _ | .updateInstance _ => .error (.backend "down")
  | .updateMessage _ => .error (.backend "down")
  | .showPresence _ => .error .timeout
  | .enqueue _ => .error .closed
  | c => consent c

/-- Everything is answered in the best way, but for bookkeeping if it fails. -/
def clerk (fails : Bool) : Oracle := fun t c =>
  if fails && isBookkeeping c t then refusal c else consent c

theorem alike_clerk (p : Program α) : Oracle.Alike isBookkeeping p (clerk true) (clerk false) := by
  intro c t u _ _ _ ht _
  simp [clerk, ht]

/-- A text to a group. -/
def text : SendInput :=
  ⟨⟨"A"⟩, "1@g.us", .text "hi", none⟩

/-- The event of a text. -/
def textEvent : QueueEvent :=
  .ofMessage (.make ⟨5⟩ ⟨"A"⟩ "1@g.us" .text "hi" .queued ⟨0, 0⟩)

end Sample

/-- While no bookkeeping succeeds, a text is sent, another one is submitted, and one is sent for an
event: the results are as if all had succeeded. -/
theorem bookkeeping_without_effect_sample :
    let sent := (send {} Sample.text).run (Sample.clerk true).answer []
    let submitted := (submit ⟨⟨"A"⟩, "1@g.us", "text", "hi"⟩).run (Sample.clerk true).answer []
    let processed := (processEvent {} Sample.textEvent).run (Sample.clerk true).answer []
    (sent.1.toOption.map Message.status = some .sent ∧
      sent.1 = ((send {} Sample.text).run (Sample.clerk false).answer []).1) ∧
    (submitted.1.toOption.map Message.status = some .queued ∧ submitted.1 =
      ((submit ⟨⟨"A"⟩, "1@g.us", "text", "hi"⟩).run (Sample.clerk false).answer []).1) ∧
    (transmitted processed.2).length = 1 ∧ transmitted processed.2 =
      transmitted ((processEvent {} Sample.textEvent).run (Sample.clerk false).answer []).2 := by
  intro sent submitted processed
  have same := bookkeeping_without_effect {} (Sample.clerk true) (Sample.clerk false)
  refine ⟨⟨by decide +kernel, ?_⟩, ⟨by decide +kernel, ?_⟩, by decide +kernel, ?_⟩
  · exact same.1 _ (Sample.alike_clerk _)
  · exact same.2.1 _ (Sample.alike_clerk _)
  · exact same.2.2 _ fun _ _ => Sample.alike_clerk _

end Delivery

end MessageGateway
