import MessageGateway.Proofs.Dispatch.Conduct
import Mathlib.Data.List.Nodup

/-!
# Durability of a send

Wherever a send stops, and whatever it was answered, it has done each thing of weight at most once
and in a fixed order, and what it has transmitted it had stored before. So a crash leaves a record
of everything that may have been transmitted.

## Main definitions

* `Conduct.Stage`, `Conduct.stage?`: the calls of weight, in the order in which a send makes them
* `Conduct.Durable`: what a send leaves behind wherever it stops

## Main results

* `Conduct.send_durable`: every trace of a send is durable
-/

namespace MessageGateway

open Program

namespace Conduct

/-! ## The stages of a send -/

/-- What a send does at most once. -/
inductive Stage where
  | downgrade
  | presence
  | probe
  | upload
  | creation
  | transmission
  deriving DecidableEq, Repr

/-- The stages in the order in which a send comes to them. -/
def Stage.inOrder : List Stage :=
  [.downgrade, .presence, .probe, .upload, .creation, .transmission]

/-- The stage to which a call belongs. -/
def stage? : Call → Option Stage
  | .updateInstance _ => some .downgrade
  | .showPresence _ => some .presence
  | .probe .. => some .probe
  | .upload .. => some .upload
  | .createMessage _ => some .creation
  | .transmit .. => some .transmission
  | _ => none

/-- However long the wait for a session is, the instance shows presence at most once. -/
theorem lookUntilReady_follows (c : DispatchConfig) (i : InstanceId) (start looks : Nat)
    (shown : Bool) : (lookUntilReady c i start looks shown).Follows stage?
      (if shown then [] else [.presence]) := by
  induction looks generalizing shown with
  | zero => trivial
  | succ looks ih =>
    unfold lookUntilReady
    refine Only.bindFollows (only_request rfl) fun ready => ?_
    cases ready with
    | true => trivial
    | false =>
      refine Only.bindFollows (only_request rfl) fun time => ?_
      split
      · trivial
      · have pause (deadline : Nat) : (sleepUntil deadline).Only fun c => stage? c = none :=
          Only.bind (only_request rfl) fun _ => only_pure ()
        cases shown with
        | true => exact Only.bindFollows (pause _) fun _ => ih true
        | false =>
          dsimp only
          split
          · next due =>
            -- presence is shown now, and nothing is left of the plan for the next looks
            rw [due]
            have presence : (bestEffort (showPresence i)).Follows stage? [.presence] :=
              Follows.map (follows_request rfl)
            refine presence.bind fun _ => ?_
            exact Only.bindFollows (pause _) fun _ => ih true
          · next notDue =>
            rw [Bool.eq_false_iff.2 notDue]
            exact Only.bindFollows (pause _) fun _ => ih false

theorem awaitReady_follows (c : DispatchConfig) (i : InstanceId) :
    (awaitReady c i).Follows stage? [.presence] := by
  refine Only.bindFollows (only_request rfl) fun start => ?_
  refine (lookUntilReady_follows c i start c.looks false).bind fun ready => ?_
  cases ready with
  | true => trivial
  | false => trivial

theorem resolve_follows (c : ResolverConfig) (i : InstanceId) (raw : String) :
    (resolve c i raw).Follows stage? [.probe] := by
  unfold resolve
  split
  · trivial
  · trivial
  · next digits _ =>
    have asked : (probe i (Destination.candidates c digits)).Follows stage? [.probe] :=
      follows_request rfl
    refine asked.bind fun results => ?_
    cases results with
    | ok results => trivial
    | error e => trivial

theorem uploadMedia_follows (i : InstanceId) (content : Content) :
    (Dispatch.uploadMedia i content).run.Follows stage? [.upload] := by
  unfold Dispatch.uploadMedia
  split
  · trivial
  · next media category _ =>
    have uploaded : (upload i media.data category).Follows stage? [.upload] := follows_request rfl
    rw [map_eq_pure_bind]
    exact Follows.bindExcept (Follows.map uploaded) fun _ => trivial

theorem prepare_follows (c : GatewayConfig) (input : SendInput) :
    (Dispatch.prepare c input).run.Follows stage? [.presence, .probe, .upload] := by
  refine Follows.bindExcept (Follows.map (awaitReady_follows c.dispatch input.owner)) fun _ => ?_
  refine Follows.bindExcept (Follows.map (resolve_follows _ _ _)) fun address => ?_
  refine Only.bindExceptFollows (Only.orFail (only_pure _)) fun _ => ?_
  refine Follows.bindExcept (uploadMedia_follows _ _) fun uploaded => ?_
  refine Only.bindExceptFollows (Only.map (only_request rfl)) fun time => ?_
  have words : (Dispatch.waveformWords input.content).Only fun c => stage? c = none := by
    unfold Dispatch.waveformWords
    split
    · exact only_request rfl
    · exact only_pure _
  refine Only.bindExceptFollows (Only.map words) fun words => ?_
  exact Only.bindExceptFollows (Only.orFail (only_pure _)) fun outbound => trivial

theorem downgrade_follows (i : InstanceId) :
    (Dispatch.downgrade i).Follows stage? [.downgrade] := by
  refine Only.bindFollows (only_request rfl) fun r => ?_
  cases r with
  | ok r =>
    have update : (updateInstance { r with status := .error }).Follows stage? [.downgrade] :=
      follows_request rfl
    exact Follows.bind (Follows.map update) fun _ => trivial
  | error e => trivial

theorem checkSession_follows (i : InstanceId) :
    (Dispatch.checkSession i).run.Follows stage? [.downgrade] := by
  refine Only.bindExceptFollows (Only.map (only_request rfl)) fun opened => ?_
  have lost : (do
      Dispatch.downgrade i
      throw (.of (.notConnected i)) : ExceptT SendFailure Program Unit).run.Follows stage?
        [.downgrade] :=
    Follows.bindExcept (Follows.map (downgrade_follows i)) fun _ => trivial
  cases opened with
  | ok session =>
    dsimp only
    split
    · trivial
    · exact lost
  | error e => exact lost

theorem store_follows (input : SendInput) (known : Option Message) (outbound : Outbound) :
    (Dispatch.store input known outbound).run.Follows stage? [.creation] := by
  refine Only.bindExceptFollows (Only.map (only_request rfl)) fun time => ?_
  cases known with
  | some m =>
    refine Only.bindExceptFollows (Only.orFail (only_pure _)) fun m' => ?_
    exact Only.bindExceptFollows (Only.orFail (only_request rfl)) fun _ => trivial
  | none =>
    dsimp only
    cases input.id with
    | some id => exact Follows.map (follows_request rfl)
    | none =>
      refine Only.bindExceptFollows (Only.map (only_request rfl)) fun id => ?_
      exact Follows.map (follows_request rfl)

theorem deliver_follows (r : Message) (i : InstanceId) (address : Address) (o : Outbound) :
    (Dispatch.deliver r i address o).run.Follows stage? [.transmission] := by
  have transmitted : (transmit i address o).Follows stage? [.transmission] := follows_request rfl
  refine Follows.bindExcept (Follows.map transmitted) fun answer => ?_
  have settle (status : MessageStatus) : (Dispatch.settle r status).Follows stage? [] :=
    follows_of_only (Dispatch.settle_only rfl fun _ => rfl) []
  cases answer with
  | ok _ => exact Follows.map (settle .sent)
  | error e => exact Follows.bindExcept (Follows.map (settle .failed)) fun _ => trivial

/-- **A send comes to its stages in their order**, and to each of them at most once. -/
theorem send_follows (c : GatewayConfig) (input : SendInput) :
    (send c input).Follows stage? Stage.inOrder := by
  unfold send
  split
  · trivial
  · refine Only.bindExceptFollows (Dispatch.existing_only fun _ _ => rfl) fun known => ?_
    split
    · trivial
    · refine Only.bindExceptFollows (Dispatch.checkInstance_only rfl) fun _ => ?_
      refine Follows.bindExcept (checkSession_follows _) fun _ => ?_
      refine Follows.bindExcept (prepare_follows c input) fun (address, outbound) => ?_
      refine Follows.bindExcept (store_follows _ _ _) fun r => ?_
      exact deliver_follows _ _ _ _

/-! ## What a send leaves behind -/

variable {i : InstanceId} {x : Option MessageId} {t : Trace}

/-- What is stored last after a transmission is a record of the message transmitted. -/
theorem Progress.written (progress : Progress i x t) : Untransmitted t ∨ ∃ r,
    written? t = some r ∧ About i x t r ∧ (r.status = .sending ∨ r.status.isTerminal = true) := by
  cases progress with
  | preparing untransmitted => exact .inl untransmitted
  | @transmitted before after address o a r split recorded rest =>
    right
    subst split
    have transmitted : written? (⟨.transmit i address o, a⟩ :: before) = some r := by
      rw [written?_cons]
      exact recorded.written
    have about : About i x (⟨.transmit i address o, a⟩ :: before) r :=
      recorded.about.cons rfl rfl
    cases rest with
    | nothing => exact ⟨r, transmitted, about, .inl recorded.status⟩
    | timed time => exact ⟨r, transmitted, about.cons rfl rfl, .inl recorded.status⟩
    | @settled status time terminal b =>
      have about := (about.cons (e := ⟨.now, time⟩) rfl rfl).cons
        (e := ⟨.updateMessage { r with status, updated := time }, b⟩) rfl rfl
      cases b with
      | ok _ => exact ⟨_, written?_cons _ _, about.of_same ⟨rfl, rfl, rfl, rfl, rfl⟩, .inr terminal⟩
      | error e =>
        refine ⟨r, ?_, about, .inl recorded.status⟩
        rw [List.cons_append, written?_cons]
        exact transmitted

/-- What a send leaves behind wherever it stops. -/
structure Durable (input : SendInput) (t : Trace) : Prop where
  /-- It has come to its stages in their order. -/
  ordered : (t.filterMap fun e => stage? e.call).reverse.Sublist Stage.inOrder
  /-- It has come to each stage at most once. -/
  once : (t.filterMap fun e => stage? e.call).Nodup
  /-- It has stored as being sent what it has transmitted, and since then at most the end of the
  delivery. -/
  progress : Progress input.owner input.id t
  /-- After a transmission the record that it has stored last tells of the message. -/
  traced : Untransmitted t ∨ ∃ r, written? t = some r ∧ About input.owner input.id t r ∧
    (r.status = .sending ∨ r.status.isTerminal = true)

/-- **Durability first**: whatever is answered to a send, but by a store that tells truly which
record it has made, and wherever the send stops, it has done nothing of weight twice, and the record
of what it has transmitted was stored before. -/
theorem send_durable (c : GatewayConfig) (input : SendInput) {rest : Program _}
    (made : (send c input).Made t rest) (honest : ∀ e ∈ t, e.isHonest = true) :
    Durable input t := by
  have ordered := made.sublist (send_follows c input)
  have progress : Progress input.owner input.id t :=
    made.invariant (ensures_send c input) honest (fun _ _ may => may.1) fun _ _ left => left.1
  refine ⟨ordered, ?_, progress, progress.written⟩
  have once : Stage.inOrder.Nodup := by decide
  exact List.nodup_reverse.1 (ordered.nodup once)

namespace Sample

/-- A text for a number at home. -/
def input : SendInput :=
  ⟨⟨"A"⟩, "5511988887777", .text "hello", none⟩

/-- The answers of collaborators without trouble, until the end of the delivery is to be stored. -/
def answer? : (c : Call) → Option c.Answer
  | .findInstance i => some (.ok (.make i .active))
  | .openSession i => some (.ok ⟨i, true⟩)
  | .sessionReady _ => some true
  | .probe .. => some (.ok [])
  | .createMessage r => some (.ok r)
  | .transmit .. => some (.ok ())
  | .newMessageId => some (⟨5⟩ : MessageId)
  | .elapsed => some (0 : Nat)
  | .now => some (⟨0, 0⟩ : Timestamp)
  | _ => none

/-- The calls of a send that crashes before it has stored the end of the delivery. -/
def crashed : Trace :=
  ((send {} input).follow answer?).1

end Sample

/-- The send of the sample has transmitted its text when it crashes. -/
theorem send_durable_crashed : (∃ e ∈ Sample.crashed, e.call.isTransmission = true) ∧
    (∀ e ∈ Sample.crashed, e.isHonest = true) ∧ Durable Sample.input Sample.crashed := by
  have honest : ∀ e ∈ Sample.crashed, e.isHonest = true := by decide
  exact ⟨by decide, honest, send_durable {} Sample.input (made_follow Sample.answer? _) honest⟩

end Conduct

end MessageGateway
