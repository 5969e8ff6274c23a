import MessageGateway.Proofs.Delivery.History
import MessageGateway.Proofs.Dispatch.Footprint
import MessageGateway.Proofs.Traces

/-!
# The conduct of a send

What a send does with the record of its message, told by its trace alone: whatever is answered, all
records that it stores are of one message, a record with the summary of what is transmitted is
stored as being sent before the transmission, and after it there is at most one try to store how
the delivery ended.

## Main definitions

* `Conduct.About i x t r`: the record is of the message that a send for the instance `i` under the
  name `x` deals with
* `Conduct.Progress i x t`: how far such a send has come
* `Conduct.setting i x`: what surrounds it

## Main results

* `Conduct.ensures_send`: a send makes each of its calls where it may
-/

namespace MessageGateway

open Program Setting

/-! ## What a trace tells -/

/-- The record that a call would store. -/
def Call.record? : Call → Option Message
  | .createMessage r | .updateMessage r => some r
  | _ => none

/-- The call neither concerns message records nor transmits. -/
def Call.isAside (c : Call) : Bool :=
  !c.ofMessages && !c.isTransmission

namespace Exchange

/-- The message record that was found. -/
def found? : Exchange → Option Message
  | ⟨.findMessage _, .ok r⟩ => r
  | _ => none

/-- The name that was drawn for a message. -/
def named? : Exchange → Option MessageId
  | ⟨.newMessageId, x⟩ => some x
  | _ => none

/-- The message record that was stored. -/
def written? : Exchange → Option Message
  | ⟨.createMessage r, .ok _⟩ => some r
  | ⟨.updateMessage r, .ok _⟩ => some r
  | _ => none

/-- A store that has made a record answers with the record that it was given. -/
def isHonest : Exchange → Bool
  | ⟨.createMessage r, .ok r'⟩ => r' = r
  | _ => true

variable {c : Call} (a : c.Answer)

theorem found?_of_isAside (h : c.isAside = true) : found? ⟨c, a⟩ = none := by
  cases c <;> first | rfl | cases h

end Exchange

namespace Call

variable {c : Call}

theorem isTransmission_of_isAside (h : c.isAside = true) : c.isTransmission = false := by
  cases c <;> first | rfl | cases h

theorem record?_of_isAside (h : c.isAside = true) : c.record? = none := by
  cases c <;> first | rfl | cases h

theorem isAside_of_isPreparation (h : c.isPreparation = true) : c.isAside = true := by
  cases c <;> first | rfl | cases h

end Call

namespace Conduct

/-- The record that was found last. -/
def found? (t : Trace) : Option Message :=
  t.findSome? Exchange.found?

/-- The name that was drawn last. -/
def named? (t : Trace) : Option MessageId :=
  t.findSome? Exchange.named?

/-- The record that was stored last. -/
def written? (t : Trace) : Option Message :=
  t.findSome? Exchange.written?

/-- Nothing was transmitted, nor tried to be. -/
def Untransmitted (t : Trace) : Prop :=
  ∀ e ∈ t, e.call.isTransmission = false

/-- The record is of the message that a send for the instance `i` under the name `x` deals with:
that of the record which it has found, or else a new one of the instance. -/
def About (i : InstanceId) (x : Option MessageId) (t : Trace) (r : Message) : Prop :=
  match found? t with
  | some m => m.Same r
  | none => r.owner = i ∧ x.or (named? t) = some r.id

/-- The record was stored last, as being sent and with the summary of what is to be transmitted. -/
structure Recorded (i : InstanceId) (x : Option MessageId) (o : Outbound) (t : Trace)
    (r : Message) : Prop where
  written : written? t = some r
  about : About i x t r
  status : r.status = .sending
  payload : r.payload = o.summary
  untransmitted : Untransmitted t

/-- The calls since the transmission of the record: a look at the clock, and then the try to store
that the delivery has ended. -/
inductive Aftermath (r : Message) : Trace → Prop
  | nothing : Aftermath r []
  | timed (time : Timestamp) : Aftermath r [⟨.now, time⟩]
  | settled {status : MessageStatus} {time : Timestamp} (terminal : status.isTerminal = true)
      (a : (Call.updateMessage { r with status, updated := time }).Answer) :
      Aftermath r [⟨.updateMessage { r with status, updated := time }, a⟩, ⟨.now, time⟩]

/-- How far a send has come: it has not transmitted, or it has, on the session of its instance and
after it had stored the record. -/
inductive Progress (i : InstanceId) (x : Option MessageId) (t : Trace) : Prop
  | preparing (untransmitted : Untransmitted t)
  | transmitted {before after : Trace} {address : Address} {o : Outbound}
      {a : (Call.transmit i address o).Answer} {r : Message}
      (split : t = after ++ ⟨.transmit i address o, a⟩ :: before)
      (recorded : Recorded i x o before r) (rest : Aftermath r after)

variable {i : InstanceId} {x : Option MessageId} {t : Trace} {c : Call} {r m : Message}
  {known : Option Message}

theorem found?_cons (e : Exchange) (t : Trace) : found? (e :: t) = e.found?.or (found? t) := by
  cases h : e.found? <;> simp [found?, h]

theorem named?_cons (e : Exchange) (t : Trace) : named? (e :: t) = e.named?.or (named? t) := by
  cases h : e.named? <;> simp [named?, h]

theorem written?_cons (e : Exchange) (t : Trace) :
    written? (e :: t) = e.written?.or (written? t) := by
  cases h : e.written? <;> simp [written?, h]

theorem Untransmitted.cons {a : c.Answer} (h : Untransmitted t) (hc : c.isTransmission = false) :
    Untransmitted (⟨c, a⟩ :: t) :=
  List.forall_mem_cons.2 ⟨hc, h⟩

/-- Whether a record is of the message changes only when a record is found or a name is drawn. -/
theorem About.cons {e : Exchange} (h : About i x t r) (found : e.found? = none)
    (named : e.named? = none) : About i x (e :: t) r := by
  unfold About at h ⊢
  rw [found?_cons, named?_cons, found, named]
  exact h

theorem About.of_same {r' : Message} (h : About i x t r) (same : r.Same r') : About i x t r' := by
  unfold About at h ⊢
  split
  · next m found =>
    rw [found] at h
    exact Message.Same.trans h same
  · next absent =>
    rw [absent] at h
    exact ⟨same.owner.trans h.1, by rw [same.id]; exact h.2⟩

/-! ## The parts of a send -/

/-- What surrounds a send for the instance `i` under the name `x`: its calls are answered in any
way, but by a store that tells truly which record it has made. -/
def setting (i : InstanceId) (x : Option MessageId) : Setting Trace :=
  traced (fun e => e.isHonest = true) fun c t =>
    Progress i x t ∧ ∀ r, c.record? = some r → About i x t r

/-- The send has looked for a record and found `known`; it has stored nothing of its own. -/
structure Begun (known : Option Message) (t : Trace) : Prop where
  untransmitted : Untransmitted t
  found : found? t = known

theorem Begun.cons {a : c.Answer} (h : Begun known t) (aside : c.isAside = true) :
    Begun known (⟨c, a⟩ :: t) where
  untransmitted := h.untransmitted.cons (Call.isTransmission_of_isAside aside)
  found := by rw [found?_cons, Exchange.found?_of_isAside a aside, Option.none_or, h.found]

/-- Calls aside from the records and the transmission leave a send where it is. -/
theorem ensures_aside {α : Type} {p : Program α} (only : p.Only fun c => c.isAside = true)
    (begun : Begun known t) : (setting i x).Ensures (fun _ u => Begun known u) p t := by
  refine ensures_kept only ?_ (fun c a t aside begun => begun.cons aside) begun
  intro c t aside begun
  refine ⟨.preparing begun.untransmitted, ?_⟩
  rw [Call.record?_of_isAside aside]
  intro r hr
  cases hr

theorem ensures_existing (i : InstanceId) (x : Option MessageId) : (setting i x).Ensures
    (fun res u => Untransmitted u ∧ ∀ known, res = .ok known → Begun known u)
    (Dispatch.existing x).run [] := by
  have none : Untransmitted [] := List.forall_mem_nil _
  cases x with
  | none =>
    refine ensures_done ⟨none, ?_⟩
    rintro known ⟨⟩
    exact ⟨none, rfl⟩
  | some y =>
    have find : (setting i (some y)).Ensures (fun a u => Untransmitted u ∧
        ∀ known, a = .ok known → Begun known u) (findMessage y) [] := by
      refine ensures_call ⟨.preparing none, fun r hr => by cases hr⟩ fun a _ => ?_
      have untransmitted := none.cons (c := .findMessage y) (a := a) rfl
      refine ⟨untransmitted, ?_⟩
      rintro known rfl
      refine ⟨untransmitted, ?_⟩
      rw [found?_cons]
      exact Option.or_none
    refine find.orFail (fun known u _ hQ => ⟨hQ.1, ?_⟩) fun e u _ hQ => ⟨hQ.1, ?_⟩
    · rintro _ ⟨⟩
      exact hQ.2 known rfl
    · rintro _ ⟨⟩

/-- The record is stored as being sent, with the summary of what is to be transmitted. -/
theorem ensures_store (input : SendInput) (outbound : Outbound) (begun : Begun known t)
    (notOver : ∀ m ∈ known, m.status.isTerminal = false) :
    (setting input.owner input.id).Ensures
      (fun res u => Untransmitted u ∧
        ∀ r, res = .ok r → Recorded input.owner input.id outbound u r)
      (Dispatch.store input known outbound).run t := by
  have clock : (setting input.owner input.id).Ensures (fun _ u => Begun known u) now t :=
    ensures_aside (only_request rfl) begun
  refine clock.bindLift fun time t _ hQ => ?_
  have begun := hQ t rfl
  cases known with
  | some m =>
    have allowed := MessageStatus.allows_sending (notOver m rfl)
    simp only [Message.transition, allowed, if_true]
    let r : Message := { m with payload := outbound.summary, status := .sending, updated := time }
    have about : About input.owner input.id t r := by
      unfold About
      rw [begun.found]
      exact ⟨rfl, rfl, rfl, rfl, rfl⟩
    have update : (setting input.owner input.id).Ensures
        (fun a u => Untransmitted u ∧ (a = .ok () → Recorded input.owner input.id outbound u r))
        (updateMessage r) t := by
      refine ensures_call ⟨.preparing begun.untransmitted, ?_⟩ fun a _ => ?_
      · rintro _ ⟨⟩
        exact about
      · have untransmitted := begun.untransmitted.cons (c := .updateMessage r) (a := a) rfl
        refine ⟨untransmitted, ?_⟩
        rintro rfl
        exact ⟨written?_cons _ _, about.cons rfl rfl, rfl, rfl, untransmitted⟩
    show (setting input.owner input.id).Ensures _ (do
      orFail .ofStore (updateMessage r)
      return r : ExceptT SendFailure Program Message).run t
    refine update.bindOrFail (fun _ u _ hQ => ensures_pure fun v hv => ?_) fun e u _ hQ => ?_
    · refine ⟨(hQ v hv).1, ?_⟩
      rintro _ ⟨⟩
      exact (hQ v hv).2 rfl
    · refine ⟨hQ.1, ?_⟩
      rintro _ ⟨⟩
  | none =>
    have created (id : MessageId) {u : Trace} (begun : Begun none u)
        (name : input.id.or (named? u) = some id) : (setting input.owner input.id).Ensures
          (fun res u => Untransmitted u ∧
            ∀ r, res = .ok r → Recorded input.owner input.id outbound u r)
          (orFail .ofStore (createMessage (.make id input.owner input.recipient input.content.kind
            outbound.summary .sending time)) : ExceptT SendFailure Program Message).run u := by
      let r : Message := .make id input.owner input.recipient input.content.kind
        outbound.summary .sending time
      have about : About input.owner input.id u r := by
        unfold About
        rw [begun.found]
        exact ⟨rfl, name⟩
      have create : (setting input.owner input.id).Ensures
          (fun a u => Untransmitted u ∧
            ∀ r', a = .ok r' → Recorded input.owner input.id outbound u r')
          (createMessage r) u := by
        refine ensures_call ⟨.preparing begun.untransmitted, ?_⟩ fun a honest => ?_
        · rintro _ ⟨⟩
          exact about
        · have untransmitted := begun.untransmitted.cons (c := .createMessage r) (a := a) rfl
          refine ⟨untransmitted, ?_⟩
          rintro r' rfl
          obtain rfl : r' = r := of_decide_eq_true honest
          exact ⟨written?_cons _ _, about.cons rfl rfl, rfl, rfl, untransmitted⟩
      refine create.orFail (fun r' v _ hQ => ⟨hQ.1, ?_⟩) fun e v _ hQ => ⟨hQ.1, ?_⟩
      · rintro _ ⟨⟩
        exact hQ.2 r' rfl
      · rintro _ ⟨⟩
    dsimp only
    cases given : input.id with
    | some id =>
      rw [given] at created
      exact created id begun rfl
    | none =>
      rw [given] at created
      have name : (setting input.owner none).Ensures
          (fun id u => Begun none u ∧ named? u = some id) newMessageId t := by
        refine ensures_call ⟨.preparing begun.untransmitted, fun r hr => by cases hr⟩ fun id _ => ?_
        exact ⟨begun.cons rfl, named?_cons _ _⟩
      refine name.bindLift fun id u _ hQ => ?_
      obtain ⟨begun, drawn⟩ := hQ u rfl
      exact created id begun drawn

/-- The record that a send hands back. -/
def handed? : Except SendFailure Message → Option Message
  | .ok r => some r
  | .error failure => failure.record

/-- How a send leaves its trace, and what it hands back. -/
def Left (i : InstanceId) (x : Option MessageId) (res : Except SendFailure Message)
    (t : Trace) : Prop :=
  Progress i x t ∧ ∀ r, handed? res = some r → About i x t r

/-- A failure without a record, before anything was transmitted. -/
theorem left_of_untransmitted {failure : SendFailure} (traceless : failure.record = none)
    (untransmitted : Untransmitted t) : Left i x (.error failure) t := by
  refine ⟨.preparing untransmitted, ?_⟩
  intro r hr
  rw [handed?, traceless] at hr
  cases hr

/-- The end of the delivery is the first thing to leave the gateway after the transmission. -/
theorem ensures_settle {before : Trace} {address : Address} {o : Outbound}
    {status : MessageStatus} (a : (Call.transmit i address o).Answer)
    (recorded : Recorded i x o before r) (terminal : status.isTerminal = true) :
    (setting i x).Ensures (fun r' u => Progress i x u ∧ About i x u r')
      (Dispatch.settle r status) (⟨.transmit i address o, a⟩ :: before) := by
  have clock : (setting i x).Ensures
      (fun time u => u = ⟨.now, time⟩ :: ⟨.transmit i address o, a⟩ :: before) now
      (⟨.transmit i address o, a⟩ :: before) :=
    ensures_call ⟨.transmitted rfl recorded .nothing, fun r hr => by cases hr⟩
      fun time _ => rfl
  refine clock.bind fun time u _ hQ => ?_
  obtain rfl := hQ u rfl
  have allowed : r.status.allows status = true := by
    rw [recorded.status]
    exact MessageStatus.allows_of_isTerminal rfl terminal
  simp only [Message.transition, allowed, if_true]
  let r' : Message := { r with status, updated := time }
  have about : About i x (⟨.now, time⟩ :: ⟨.transmit i address o, a⟩ :: before) r' :=
    ((recorded.about.cons rfl rfl).cons rfl rfl).of_same ⟨rfl, rfl, rfl, rfl, rfl⟩
  have update : (setting i x).Ensures (fun _ u => Progress i x u ∧ About i x u r')
      (updateMessage r') (⟨.now, time⟩ :: ⟨.transmit i address o, a⟩ :: before) := by
    refine ensures_call ⟨.transmitted rfl recorded (.timed time), ?_⟩ fun b _ => ?_
    · rintro _ ⟨⟩
      exact about
    · refine ⟨.transmitted rfl recorded (.settled terminal b), ?_⟩
      exact about.cons rfl rfl
  show (setting i x).Ensures _ (do
    let _ ← bestEffort (updateMessage r')
    return r') _
  exact update.bindBestEffort fun _ u _ hQ => ensures_pure hQ

theorem ensures_deliver {address : Address} {o : Outbound} (recorded : Recorded i x o t r) :
    (setting i x).Ensures (Left i x) (Dispatch.deliver r i address o).run t := by
  have transmitted : (setting i x).Ensures (fun a u => u = ⟨.transmit i address o, a⟩ :: t)
      (transmit i address o) t :=
    ensures_call ⟨.preparing recorded.untransmitted, fun r hr => by cases hr⟩ fun a _ => rfl
  refine transmitted.bindLift fun a u _ hQ => ?_
  obtain rfl := hQ u rfl
  cases a with
  | ok _ =>
    refine (ensures_settle (.ok ()) recorded rfl).map fun r' u _ hQ => ⟨hQ.1, ?_⟩
    rintro _ ⟨⟩
    exact hQ.2
  | error e =>
    refine (ensures_settle (.error e) recorded rfl).bindLift fun r' u _ hQ => ?_
    refine ensures_pure fun v hv => ⟨(hQ v hv).1, ?_⟩
    rintro _ ⟨⟩
    exact (hQ v hv).2

/-- A part of a send before the record is stored. -/
theorem Begun.bindAside {α : Type} {part : ExceptT SendFailure Program α}
    {f : α → ExceptT SendFailure Program Message} (begun : Begun known t)
    (only : part.run.Only fun c => c.isAside = true) (traceless : Dispatch.Traceless part)
    (hf : ∀ a u, Begun known u → (setting i x).Ensures (Left i x) (f a).run u) :
    (setting i x).Ensures (Left i x) (part >>= f).run t := by
  have aside : (setting i x).Ensures (fun _ u => Begun known u) part.run t :=
    ensures_aside only begun
  refine (aside.ends traceless).bindExcept (fun a u _ hQ => ?_) fun failure u _ hQ => ?_
  · exact hf a u (hQ u rfl).1
  · exact left_of_untransmitted (hQ.2 failure rfl) hQ.1.untransmitted

theorem ensures_proceed (c : GatewayConfig) (input : SendInput) (begun : Begun known t)
    (notOver : ∀ m ∈ known, m.status.isTerminal = false) :
    (setting input.owner input.id).Ensures (Left input.owner input.id)
      (Dispatch.proceed c input known).run t := by
  unfold Dispatch.proceed
  refine begun.bindAside (Dispatch.checkInstance_only rfl) (Dispatch.checkInstance_traceless _) ?_
  intro _ u begun
  refine begun.bindAside (Dispatch.checkSession_only rfl rfl fun _ => rfl)
    (Dispatch.checkSession_traceless _) ?_
  intro _ v begun
  refine begun.bindAside ((Dispatch.prepare_only c input).mono fun _ =>
    Call.isAside_of_isPreparation) (Dispatch.prepare_traceless c input) ?_
  rintro ⟨address, outbound⟩ w begun
  have store := (ensures_store input outbound begun notOver).ends
    (Dispatch.store_traceless input known outbound)
  refine store.bindExcept (fun r u _ hQ => ?_) fun failure u _ hQ => ?_
  · exact ensures_deliver ((hQ u rfl).1.2 r rfl)
  · exact left_of_untransmitted (hQ.2 failure rfl) hQ.1.1

/-- **A send makes each of its calls where it may**, and hands back a record of its message. -/
theorem ensures_send (c : GatewayConfig) (input : SendInput) :
    (setting input.owner input.id).Ensures (Left input.owner input.id) (send c input) [] := by
  unfold send
  split
  · exact ensures_done (left_of_untransmitted rfl (List.forall_mem_nil _))
  · have existing := (ensures_existing input.owner input.id).ends
      (Dispatch.existing_traceless input.id)
    refine existing.bindExcept (fun known u _ hQ => ?_) fun failure u _ hQ => ?_
    · have begun := (hQ u rfl).1.2 known rfl
      split
      · next m hm =>
        obtain ⟨found, -⟩ := Option.filter_eq_some_iff.1 hm
        refine ensures_done ⟨.preparing begun.untransmitted, ?_⟩
        rintro _ ⟨⟩
        unfold About
        rw [begun.found, found]
        exact .refl m
      · next notOver =>
        exact ensures_proceed c input begun (Dispatch.notOver_of_filter notOver)
    · exact left_of_untransmitted (hQ.2 failure rfl) hQ.1.1

end Conduct

end MessageGateway
