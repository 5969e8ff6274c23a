import MessageGateway.Dispatch
import MessageGateway.Proofs.Calls
import MessageGateway.Proofs.Setting

/-!
# The calls of a send

Until a send stores its record, it makes few calls that others could notice: it looks at the
instance and its session, and the preparation of a transmission asks only clocks, the network and
the source of random words. What fails by then fails without a record.

## Main definitions

* `Dispatch.Traceless`: no failure of a part of a send comes with a record

## Main results

* `Dispatch.prepare_only`: a preparation makes only such calls
* `Dispatch.checkInstance_only`, `Dispatch.checkSession_only`: the calls of the checks
* `Dispatch.send_only`: the calls of a send
* `Dispatch.prepare_traceless`, `Dispatch.store_traceless`: a failure before the transmission has
  no record
-/

namespace MessageGateway

open Program

namespace Dispatch

variable {P : Call → Prop} {i : InstanceId}

/-- Waiting for a session takes only looks at it and at the clock. -/
theorem lookUntilReady_only {c : DispatchConfig} (ready : P (.sessionReady i)) (clock : P .elapsed)
    (presence : P (.showPresence i)) (pause : ∀ deadline, P (.pause deadline [] false))
    (start looks : Nat) (shown : Bool) : (lookUntilReady c i start looks shown).Only P := by
  induction looks generalizing shown with
  | zero => exact only_pure false
  | succ looks ih =>
    unfold lookUntilReady
    refine Only.bind (only_request ready) fun ready => ?_
    cases ready with
    | true => exact only_pure true
    | false =>
      refine Only.bind (only_request clock) fun time => ?_
      split
      · exact only_pure false
      · have sleep (deadline : Nat) : (sleepUntil deadline).Only P :=
          Only.bind (only_request (pause _)) fun _ => only_pure ()
        dsimp only
        split
        · refine Only.bind (Only.bestEffort (only_request presence)) fun _ => ?_
          exact Only.bind (sleep _) fun _ => ih _
        · exact Only.bind (sleep _) fun _ => ih _

theorem awaitReady_only {c : DispatchConfig} (ready : P (.sessionReady i)) (clock : P .elapsed)
    (presence : P (.showPresence i)) (pause : ∀ deadline, P (.pause deadline [] false)) :
    (awaitReady c i).Only P := by
  refine Only.bind (only_request clock) fun start => ?_
  refine Only.bind (lookUntilReady_only ready clock presence pause start _ false) fun ready => ?_
  cases ready with
  | true => exact only_pure _
  | false => exact only_pure _

theorem resolve_only {c : ResolverConfig} (probe : ∀ numbers, P (.probe i numbers)) (raw : String) :
    (resolve c i raw).Only P := by
  unfold resolve
  split
  · exact only_pure _
  · exact only_pure _
  · refine Only.bind (only_request (probe _)) fun results => ?_
    cases results with
    | ok results => exact only_pure _
    | error e => exact only_pure _

theorem uploadMedia_only (upload : ∀ data category, P (.upload i data category))
    (content : Content) : (uploadMedia i content).run.Only P := by
  unfold uploadMedia
  split
  · exact only_pure _
  · rw [map_eq_pure_bind]
    refine Only.bindExcept (Only.orFail ?_) fun uploaded => only_pure _
    exact only_request (upload _ _)

theorem waveformWords_only (words : ∀ count, P (.randomWords count)) (content : Content) :
    (waveformWords content).Only P := by
  unfold waveformWords
  split
  · exact only_request (words _)
  · exact only_pure _

/-- **A preparation only prepares.** -/
theorem prepare_only (c : GatewayConfig) (input : SendInput) :
    (prepare c input).run.Only fun c => c.isPreparation = true := by
  refine Only.bindExcept (Only.orFail (awaitReady_only rfl rfl rfl fun _ => rfl)) fun _ => ?_
  refine Only.bindExcept (Only.orFail (resolve_only (fun _ => rfl) _)) fun address => ?_
  refine Only.bindExcept (Only.orFail (only_pure _)) fun _ => ?_
  refine Only.bindExcept (uploadMedia_only (fun _ _ => rfl) _) fun uploaded => ?_
  refine Only.bindExcept (Only.map (only_request rfl)) fun time => ?_
  refine Only.bindExcept (Only.map (waveformWords_only (fun _ => rfl) _)) fun words => ?_
  exact Only.bindExcept (Only.orFail (only_pure _)) fun outbound => only_pure _

/-- A send goes on unless the delivery of the record that it has found is over. -/
theorem notOver_of_filter {known : Option Message}
    (h : known.filter (fun m => m.status.isTerminal) = none) :
    ∀ m ∈ known, m.status.isTerminal = false := by
  intro m hm
  simpa using Option.filter_eq_none_iff.1 h m hm

theorem existing_only {id : Option MessageId} (find : ∀ x, id = some x → P (.findMessage x)) :
    (existing id).run.Only P := by
  cases id with
  | none => exact only_pure _
  | some x => exact Only.orFail (only_request (find x rfl))

theorem checkInstance_only (find : P (.findInstance i)) : (checkInstance i).run.Only P := by
  refine Only.bindExcept (Only.map (only_request find)) fun r => ?_
  cases r with
  | ok r =>
    dsimp only
    split
    · exact only_pure _
    · exact only_pure _
  | error e =>
    cases e with
    | notFound => exact only_pure _
    | conflict => exact only_pure _
    | backend => exact only_pure _

theorem downgrade_only (find : P (.findInstance i)) (update : ∀ r, P (.updateInstance r)) :
    (downgrade i).Only P := by
  refine Only.bind (only_request find) fun r => ?_
  cases r with
  | ok r => exact Only.bind (Only.bestEffort (only_request (update _))) fun _ => only_pure ()
  | error e => exact only_pure ()

/-- A session that is refused costs a look at the instance and a write of it. -/
theorem checkSession_only (session : P (.openSession i)) (find : P (.findInstance i))
    (update : ∀ r, P (.updateInstance r)) : (checkSession i).run.Only P := by
  refine Only.bindExcept (Only.map (only_request session)) fun opened => ?_
  have lost : (do
      downgrade i
      throw (.of (.notConnected i)) : ExceptT SendFailure Program Unit).run.Only P := by
    refine Only.bindExcept (Only.map (downgrade_only find update)) fun _ => ?_
    exact only_pure _
  cases opened with
  | ok session =>
    dsimp only
    split
    · exact only_pure _
    · exact lost
  | error e => exact lost

theorem store_only {input : SendInput} {known : Option Message} {outbound : Outbound}
    (time : P .now) (name : P .newMessageId) (create : ∀ m, P (.createMessage m))
    (update : ∀ m, P (.updateMessage m)) : (store input known outbound).run.Only P := by
  refine Only.bindExcept (Only.map (only_request time)) fun now => ?_
  cases known with
  | some m =>
    refine Only.bindExcept (Only.orFail (only_pure _)) fun m' => ?_
    exact Only.bindExcept (Only.orFail (only_request (update m'))) fun _ => only_pure _
  | none =>
    dsimp only
    cases input.id with
    | some id => exact Only.orFail (only_request (create _))
    | none =>
      refine Only.bindExcept (Only.map (only_request name)) fun id => ?_
      exact Only.orFail (only_request (create _))

theorem settle_only {m : Message} {status : MessageStatus} (time : P .now)
    (update : ∀ m, P (.updateMessage m)) : (settle m status).Only P := by
  refine Only.bind (only_request time) fun now => ?_
  split
  · exact only_pure _
  · exact Only.bind (Only.bestEffort (only_request (update _))) fun _ => only_pure _

theorem deliver_only {m : Message} {address : Address} {outbound : Outbound}
    (transmit : P (.transmit i address outbound)) (time : P .now)
    (update : ∀ m, P (.updateMessage m)) : (deliver m i address outbound).run.Only P := by
  refine Only.bindExcept (Only.map (only_request transmit)) fun answer => ?_
  have settled (status : MessageStatus) : (settle m status).Only P := settle_only time update
  cases answer with
  | ok _ => exact Only.map (settled .sent)
  | error e => exact Only.bindExcept (Only.map (settled .failed)) fun _ => only_pure _

/-- **The calls of a send**: it looks at its message and at its instance, prepares, stores its
record, and transmits. -/
theorem send_only (c : GatewayConfig) (input : SendInput)
    (find : ∀ x, input.id = some x → P (.findMessage x)) (owner : P (.findInstance input.owner))
    (session : P (.openSession input.owner)) (downgrade : ∀ r, P (.updateInstance r))
    (prepares : ∀ c, c.isPreparation = true → P c) (name : P .newMessageId)
    (create : ∀ m, P (.createMessage m)) (update : ∀ m, P (.updateMessage m))
    (transmit : ∀ address outbound, P (.transmit input.owner address outbound)) :
    (send c input).Only P := by
  have time : P .now := prepares _ rfl
  unfold send
  split
  · exact only_pure _
  · refine Only.bindExcept (existing_only find) fun known => ?_
    split
    · exact only_pure _
    · refine Only.bindExcept (checkInstance_only owner) fun _ => ?_
      refine Only.bindExcept (checkSession_only session owner downgrade) fun _ => ?_
      refine Only.bindExcept ((prepare_only c input).mono prepares) fun (address, outbound) => ?_
      refine Only.bindExcept (store_only time name create update) fun m => ?_
      exact deliver_only (transmit address outbound) time update

/-! ## Failures without a record -/

variable {α β ε : Type}

/-- No failure of the program comes with a record. -/
def Traceless (x : ExceptT SendFailure Program α) : Prop :=
  x.run.Ends fun r => ∀ failure, r = .error failure → failure.record = none

theorem traceless_pure (a : α) : Traceless (pure a) :=
  fun _ eq => by cases eq

theorem traceless_throw (e : DispatchError) : Traceless (α := α) (throw (.of e)) := by
  rintro _ ⟨⟩
  rfl

theorem traceless_lift (p : Program α) : Traceless (liftM p) :=
  Ends.bind (ends_of_forall (fun _ => trivial) p) fun _ _ _ eq => by cases eq

theorem traceless_orFail {f : ε → SendFailure} (h : ∀ e, (f e).record = none)
    (p : Program (Except ε α)) : Traceless (orFail f p) := by
  refine Ends.bind (ends_of_forall (fun _ => trivial) p) fun r _ => ?_
  cases r with
  | ok a => exact fun _ eq => by cases eq
  | error e =>
    rintro _ ⟨⟩
    exact h e

theorem Traceless.bind {x : ExceptT SendFailure Program α}
    {f : α → ExceptT SendFailure Program β} (hx : Traceless x) (hf : ∀ a, Traceless (f a)) :
    Traceless (x >>= f) := by
  refine Ends.bind hx fun r hr => ?_
  cases r with
  | ok a => exact hf a
  | error e =>
    rintro _ ⟨⟩
    exact hr e rfl

theorem existing_traceless (id : Option MessageId) : Traceless (existing id) := by
  cases id with
  | none => exact traceless_pure none
  | some id => exact traceless_orFail (fun _ => rfl) _

theorem checkInstance_traceless (i : InstanceId) : Traceless (checkInstance i) := by
  refine Traceless.bind (traceless_lift _) fun r => ?_
  cases r with
  | ok r =>
    dsimp only
    split
    · exact traceless_pure ()
    · exact traceless_throw _
  | error e =>
    cases e with
    | notFound => exact traceless_throw _
    | conflict => exact traceless_throw _
    | backend => exact traceless_throw _

theorem checkSession_traceless (i : InstanceId) : Traceless (checkSession i) := by
  refine Traceless.bind (traceless_lift _) fun opened => ?_
  have lost : Traceless (do
      downgrade i
      throw (.of (.notConnected i)) : ExceptT SendFailure Program Unit) :=
    Traceless.bind (traceless_lift _) fun _ => traceless_throw _
  cases opened with
  | ok session =>
    dsimp only
    split
    · exact traceless_pure ()
    · exact lost
  | error e => exact lost

theorem uploadMedia_traceless (i : InstanceId) (content : Content) :
    Traceless (uploadMedia i content) := by
  unfold uploadMedia
  split
  · exact traceless_pure none
  · rw [map_eq_pure_bind]
    exact Traceless.bind (traceless_orFail (fun _ => rfl) _) fun uploaded => traceless_pure _

theorem prepare_traceless (c : GatewayConfig) (input : SendInput) :
    Traceless (prepare c input) := by
  refine Traceless.bind (traceless_orFail (fun _ => rfl) _) fun _ => ?_
  refine Traceless.bind (traceless_orFail (fun _ => rfl) _) fun address => ?_
  refine Traceless.bind (traceless_orFail (fun _ => rfl) _) fun _ => ?_
  refine Traceless.bind (uploadMedia_traceless _ _) fun uploaded => ?_
  refine Traceless.bind (traceless_lift _) fun time => ?_
  refine Traceless.bind (traceless_lift _) fun words => ?_
  exact Traceless.bind (traceless_orFail (fun _ => rfl) _) fun outbound => traceless_pure _

theorem store_traceless (input : SendInput) (known : Option Message) (outbound : Outbound) :
    Traceless (store input known outbound) := by
  refine Traceless.bind (traceless_lift _) fun time => ?_
  cases known with
  | some m =>
    refine Traceless.bind (traceless_orFail (fun _ => rfl) _) fun m' => ?_
    exact Traceless.bind (traceless_orFail (fun _ => rfl) _) fun _ => traceless_pure m'
  | none =>
    dsimp only
    cases input.id with
    | some id => exact traceless_orFail (fun _ => rfl) _
    | none => exact Traceless.bind (traceless_lift _) fun id => traceless_orFail (fun _ => rfl) _

end Dispatch

end MessageGateway
