import MessageGateway.Proofs.Content
import MessageGateway.Proofs.Delivery.Guarantees
import MessageGateway.Proofs.Dispatch.Conclusion
import MessageGateway.Proofs.Matching

/-!
# Fallbacks that are never taken

In four places a send provides for something that does not happen: a record that is not over
cannot be sent again, a record that is being sent cannot tell how that went, content has a file
without a category, and a message cannot be built though its file is uploaded. Whatever stands in
these places, a send among any others does the same, as long as a store that makes a record answers
with the record that it was given. So none of them is ever reached: what stands there would show.

## Main definitions

* `Fallbacks`: what a send does in the four places
* `Fallbacks.standard`: what the send of the gateway does there
* `Fallbacks.send`: one send with given fallbacks

## Main results

* `Fallbacks.send_standard`: the send of the gateway has the standard fallbacks
* `Fallbacks.matches_send`: no fallback makes a difference
* `Fallbacks.never_taken`: nor does it among other parties
* `Fallbacks.taken_of_dishonest`: it does with a store that answers with another record
-/

namespace MessageGateway

open Program

/-- The file of the content, unless it is text. -/
def Content.file? : Content → Option MediaInput
  | .text _ => none
  | .image media _ | .video media _ => some media
  | .audio media _ _ | .document media _ _ => some media

/-- What a send does where it is refused something that it is never refused. -/
structure Fallbacks where
  /-- The record that is continued cannot be sent. -/
  unsendable : Message → TransitionError → ExceptT SendFailure Program Message
  /-- The record cannot tell how its transmission went. -/
  unsettled : Message → TransitionError → Program Message
  /-- There is a file without a category, or a category without a file. -/
  unpaired : Content → ExceptT SendFailure Program (Option UploadResult)
  /-- The message cannot be built from the content and its upload. -/
  unbuilt : Content → DispatchError → ExceptT SendFailure Program Outbound

namespace Fallbacks

/-- What a send does there: it goes on without an upload, hands a record back as it is, and fails
otherwise. -/
def standard : Fallbacks where
  unsendable _ e := throw (.ofStore (.conflict e.message))
  unsettled m _ := pure m
  unpaired _ := pure none
  unbuilt _ e := throw (.of e)

/-- The upload of the file of the content, if it has one, under the category of its kind. -/
def uploadMedia (f : Fallbacks) (i : InstanceId) (content : Content) :
    ExceptT SendFailure Program (Option UploadResult) :=
  match content.file?, content.kind.category? with
  | some media, some category =>
    some <$> orFail (fun e => .of (.upload e)) (upload i media.data category)
  | none, none => pure none
  | _, _ => f.unpaired content

/-- The message ready for transmission. -/
def build (f : Fallbacks) (content : Content) (uploaded : Option UploadResult) (time : Timestamp)
    (words : List UInt64) : ExceptT SendFailure Program Outbound :=
  match content.build uploaded time words with
  | .ok outbound => pure outbound
  | .error e => f.unbuilt content e

/-- The address and the message, ready for transmission. -/
def prepare (f : Fallbacks) (c : GatewayConfig) (input : SendInput) :
    ExceptT SendFailure Program (Address × Outbound) := do
  orFail .of (awaitReady c.dispatch input.owner)
  let address ← orFail (fun e => .of (.invalidAddress e.message))
    (resolve c.resolver input.owner input.recipient)
  orFail .of (pure input.content.validate)
  let uploaded ← f.uploadMedia input.owner input.content
  let time ← now
  let words ← Dispatch.waveformWords input.content
  let outbound ← f.build input.content uploaded time words
  return (address, outbound)

/-- Stores the record of a message that is about to be transmitted. -/
def store (f : Fallbacks) (input : SendInput) (known : Option Message) (outbound : Outbound) :
    ExceptT SendFailure Program Message := do
  let time ← now
  match known with
  | some m =>
    let m := { m with payload := outbound.summary }
    let m ← match m.transition .sending time with
      | .ok m => pure m
      | .error e => f.unsendable m e
    orFail .ofStore (updateMessage m)
    return m
  | none =>
    let id ← match input.id with
      | some id => pure id
      | none => newMessageId
    orFail .ofStore (createMessage
      (.make id input.owner input.recipient input.content.kind outbound.summary .sending time))

/-- The record with the outcome of the transmission. -/
def settle (f : Fallbacks) (m : Message) (status : MessageStatus) : Program Message := do
  match m.transition status (← now) with
  | .error e => f.unsettled m e
  | .ok m =>
    let _ ← bestEffort (updateMessage m)
    return m

/-- Transmits the message and settles its record. -/
def deliver (f : Fallbacks) (m : Message) (i : InstanceId) (address : Address)
    (outbound : Outbound) : ExceptT SendFailure Program Message := do
  match ← transmit i address outbound with
  | .ok () => f.settle m .sent
  | .error e => throw ⟨.transmission e, some (← f.settle m .failed)⟩

/-- Everything a send does once it is known that the delivery is not over. -/
def proceed (f : Fallbacks) (c : GatewayConfig) (input : SendInput) (known : Option Message) :
    ExceptT SendFailure Program Message := do
  Dispatch.checkInstance input.owner
  Dispatch.checkSession input.owner
  let (address, outbound) ← f.prepare c input
  let m ← f.store input known outbound
  f.deliver m input.owner address outbound

/-- One send that does what `f` says where it is refused something that it is never refused. -/
def send (f : Fallbacks) (c : GatewayConfig) (input : SendInput) :
    Program (Except SendFailure Message) :=
  ExceptT.run do
    if input.owner.isBlank || input.recipient.isEmpty then
      throw (.of (.invalidPayload "instance_id and to are required"))
    let known ← Dispatch.existing input.id
    match known.filter fun m => m.status.isTerminal with
    | some m => return m
    | none => f.proceed c input known

variable {f : Fallbacks} {c : GatewayConfig} {input : SendInput} {known : Option Message}
  {m r : Message} {o : Outbound} {i : InstanceId} {address : Address} {content : Content}

theorem uploadMedia_eq (f : Fallbacks) (i : InstanceId) (content : Content) :
    f.uploadMedia i content = Dispatch.uploadMedia i content := by
  cases content <;> rfl

/-- A message is built whenever there is an upload of its file. -/
theorem build_eq (f : Fallbacks) {u : Option UploadResult}
    (enough : content.media? = none ∨ u.isSome = true) (time : Timestamp) (words : List UInt64) :
    f.build content u time words = orFail .of (pure (content.build u time words)) := by
  obtain ⟨o, built⟩ := Dispatch.exists_build_eq_ok enough time words
  unfold build
  rw [built]
  rfl

/-- After the upload there is one, if there is a file. -/
theorem uploadMedia_bind_congr {β : Type}
    {g g' : Option UploadResult → ExceptT SendFailure Program β}
    (h : ∀ u, content.media? = none ∨ u.isSome = true → g u = g' u) :
    Dispatch.uploadMedia i content >>= g = Dispatch.uploadMedia i content >>= g' := by
  unfold Dispatch.uploadMedia
  split
  · next none =>
    rw [pure_bind, pure_bind]
    exact h .none (.inl none)
  · rw [bind_map_left, bind_map_left]
    exact bind_congr fun u => h (some u) (.inr rfl)

theorem prepare_eq (f : Fallbacks) (c : GatewayConfig) (input : SendInput) :
    f.prepare c input = Dispatch.prepare c input := by
  unfold prepare Dispatch.prepare
  refine bind_congr fun _ => bind_congr fun address => bind_congr fun _ => ?_
  rw [uploadMedia_eq]
  refine uploadMedia_bind_congr fun u enough => ?_
  simp only [f.build_eq enough]

theorem store_eq (notOver : ∀ m ∈ known, m.status.isTerminal = false) :
    f.store input known = Dispatch.store input known := by
  funext o
  cases known with
  | none => rfl
  | some m =>
    have allowed := MessageStatus.allows_sending (notOver m rfl)
    unfold store Dispatch.store
    simp only [Message.transition, allowed, if_true]
    rfl

theorem settle_eq {status : MessageStatus} (allowed : m.status.allows status = true) :
    f.settle m status = Dispatch.settle m status := by
  unfold settle Dispatch.settle
  simp only [Message.transition, allowed, if_true]

theorem deliver_eq (sending : m.status = .sending) :
    f.deliver m i address o = Dispatch.deliver m i address o := by
  have allowed {status : MessageStatus} (terminal : status.isTerminal = true) :
      m.status.allows status = true :=
    MessageStatus.allows_of_isTerminal (sending ▸ rfl) terminal
  refine bind_congr fun a => ?_
  cases a with
  | ok _ =>
    dsimp only
    rw [settle_eq (allowed rfl)]
  | error e =>
    dsimp only
    rw [settle_eq (allowed rfl)]

/-- The send of the gateway has the standard fallbacks. -/
theorem send_standard (c : GatewayConfig) (input : SendInput) :
    standard.send c input = MessageGateway.send c input := by
  have settled : standard.settle = Dispatch.settle := by
    funext m status
    unfold settle Dispatch.settle
    refine bind_congr fun time => ?_
    cases m.transition status time <;> rfl
  have delivered : standard.deliver = Dispatch.deliver := by
    unfold deliver Dispatch.deliver
    exact settled ▸ rfl
  have stored : standard.store = Dispatch.store := by
    funext input known o
    cases known with
    | none => rfl
    | some m =>
      refine bind_congr fun time => ?_
      dsimp only
      cases Message.transition { m with payload := o.summary } .sending time <;> rfl
  have proceeded : standard.proceed = Dispatch.proceed := by
    funext c input known
    unfold proceed Dispatch.proceed
    rw [prepare_eq, delivered]
    exact stored ▸ rfl
  unfold send MessageGateway.send
  exact proceeded ▸ rfl

theorem matches_proceed (f : Fallbacks) (c : GatewayConfig) (input : SendInput)
    (notOver : ∀ m ∈ known, m.status.isTerminal = false) :
    (Dispatch.proceed c input known).run.Matches (fun x => x.isHonest = true)
      (f.proceed c input known).run := by
  unfold Dispatch.proceed proceed
  rw [prepare_eq, store_eq notOver]
  refine Matches.bindExcept (.refl _) fun _ _ _ _ => ?_
  refine Matches.bindExcept (.refl _) fun _ _ _ _ => ?_
  refine Matches.bindExcept (.refl _) fun prepared _ _ _ => ?_
  refine Matches.bindExcept (.refl _) fun r u made honest => ?_
  have sending : r.status = .sending := by
    cases Dispatch.made_store made notOver honest with
    | unwritten _ unfinished => exact absurd rfl (unfinished r)
    | stored _ sending => exact sending
  rw [deliver_eq sending]
  exact .refl _

/-- **No fallback makes a difference.** -/
theorem matches_send (f : Fallbacks) (c : GatewayConfig) (input : SendInput) :
    (MessageGateway.send c input).Matches (fun x => x.isHonest = true) (f.send c input) := by
  unfold MessageGateway.send send
  split
  · exact .done _
  · refine Matches.bindExcept (.refl _) fun known t _ _ => ?_
    cases ended : known.filter fun m => m.status.isTerminal with
    | some m => exact .done _
    | none => exact f.matches_proceed c input (Dispatch.notOver_of_filter ended)

/-- **No fallback is ever taken.** A send runs among any other parties, against a service that may
give any answers, but for a store that tells truly which record it has made. Then with any other
fallbacks it makes the same calls with the same answers and comes to the same end, whatever is
answered from then on; and it has stored nothing, or it has stored its record as being sent, and
since then it transmits and then tries once to store that the delivery is over. -/
theorem never_taken {ρ : Type} {S : Service} {parties : Party → Program ρ} {m : Memory}
    {s : System ρ} {p : Party} {c : GatewayConfig} {input : SendInput}
    {result : Except SendFailure Message → ρ}
    (sends : parties p = result <$> MessageGateway.send c input)
    (run : System.Run S (System.start parties m) s)
    (honest : ∀ x ∈ System.trace p s.log, x.isHonest = true) :
    standard.send c input = MessageGateway.send c input ∧
    (∀ f : Fallbacks, ∃ left,
      System.Run S ((System.start parties m).replace p (result <$> f.send c input))
        (s.replace p left) ∧
      (s.parties p).Matches (fun x => x.isHonest = true) left) ∧
    ∃ left, s.parties p = result <$> left ∧
      Dispatch.Advanced input.owner (System.trace p s.log) left := by
  refine ⟨send_standard c input, fun f => ?_, ?_⟩
  · refine run.exists_replaced ?_ honest
    rw [sends]
    exact (f.matches_send c input).map result
  · have made := run.made p
    rw [sends] at made
    obtain ⟨left, made, eq⟩ := made.of_map
    exact ⟨left, eq, Dispatch.made_send made honest⟩

/-- Fallbacks unlike those of the gateway: wherever it fails they go on, and the other way round. -/
def contrary : Fallbacks where
  unsendable m _ := pure m
  unsettled m _ := pure { m with payload := "" }
  unpaired content := throw (.of (.unsupportedMediaType content.kind.name))
  unbuilt _ _ := pure (.text "")

/-- The text of the sample is given up before its sender stores how its transmission went. -/
theorem never_taken_sample :
    let sample := Delivery.Sample.quarrel
    let after := Delivery.Sample.after (List.replicate 9 0 ++ [1, 1, 1, 0, 0]) sample
    let input : SendInput := ⟨⟨"A"⟩, "1@g.us", .text "hello", some ⟨5⟩⟩
    (∃ left, System.Run Delivery.service (sample.replace 0 (.sent <$> contrary.send {} input))
        (after.replace 0 left) ∧
      (after.parties 0).Matches (fun x => x.isHonest = true) left) ∧
    ∃ left, after.parties 0 = .sent <$> left ∧
      Dispatch.Advanced ⟨"A"⟩ (System.trace 0 after.log) left := by
  have run := Delivery.Sample.run_after (List.replicate 9 0 ++ [1, 1, 1, 0, 0])
    Delivery.Sample.quarrel
  obtain ⟨-, dead, advanced⟩ := never_taken rfl run (p := 0) (by decide)
  exact ⟨dead contrary, advanced⟩

/-- The network of the sample, and a store that answers with a record of which the delivery is over
in the place of the one that it is given. -/
def forger : (c : Call) → Unit → c.Answer × Unit
  | .createMessage r, _ => (.ok { r with status := .failed }, ())
  | .findInstance i, _ => (.ok (.make i .active), ())
  | c, _ => ((Delivery.Sample.network c).getD c.unanswered, ())

/-- A record that comes back from the store as one that is over cannot be settled any more. -/
theorem taken_of_dishonest : ¬∀ (f : Fallbacks) (c : GatewayConfig) (input : SendInput),
    (MessageGateway.send c input).Matches (fun _ => True) (f.send c input) := by
  intro same
  have unchanged := (same contrary {} ⟨⟨"A"⟩, "1@g.us", .text "hello", none⟩).run_eq forger
    (fun _ _ => trivial) ()
  revert unchanged
  decide

end Fallbacks

end MessageGateway
