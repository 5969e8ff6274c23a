import MessageGateway.Outbox
import MessageGateway.Proofs.Delivery.Send

/-!
# Operations on one message store

Texts are submitted, messages are sent by callers and by workers, given up, and swept, all at the
same time and on one message store. Each operation is a party of its own: a worker that takes one
event after the other is as many parties as it takes events.

## Main definitions

* `Delivery.Operation`, `Delivery.Outcome`: the operations and their results
* `Delivery.begin`: any operations, before the first call

## Main results

* `Delivery.ensures_operation`: what each operation ensures, whatever the others do
* `Delivery.Run.ended`: what holds in every run when an operation has come to its end
* `Delivery.Run.continues`: no record goes back in any run
-/

namespace MessageGateway

open Program Setting

namespace Delivery

/-- An operation that writes message records, or makes others write them. -/
inductive Operation where
  /-- A text is submitted for later. -/
  | submit (input : EnqueueInput)
  /-- A message is sent. -/
  | send (input : SendInput)
  /-- A worker deals with an event. -/
  | process (e : QueueEvent)
  /-- A message is given up. -/
  | giveUp (id : MessageId)
  /-- A sweep. -/
  | sweep (batch : Nat)

/-- The result of an operation. -/
inductive Outcome where
  /-- Of a submission. -/
  | submitted (r : Except DispatchError Message)
  /-- Of a send. -/
  | sent (r : Except SendFailure Message)
  /-- A worker has dealt with its event. -/
  | processed
  /-- Of giving a message up. -/
  | gaveUp (r : Except StoreError (Option Message))
  /-- Of a sweep. -/
  | swept (r : Except StoreError Nat)

/-- The program of an operation. -/
def Operation.program (c : GatewayConfig) : Operation → Program Outcome
  | .submit input => .submitted <$> MessageGateway.submit input
  | .send input => .sent <$> MessageGateway.send c input
  | .process e => (fun _ => .processed) <$> processEvent c e
  | .giveUp id => .gaveUp <$> failPending id
  | .sweep batch => .swept <$> sweepOnce batch

/-- Any operations on a memory, before the first call. -/
def begin (c : GatewayConfig) (ops : Party → Operation) (m : Memory) : System Outcome :=
  System.start (fun p => (ops p).program c) m

variable {old : MessageStore} {p : Party} {s t : Scene}

/-- What holds at the end of an operation: the delivery of what it transmitted is over, and a send
tells the truth about its record. -/
structure Ended (old : MessageStore) (p : Party) (o : Outcome) (s : Scene) : Prop where
  settled : Settled old p s
  told : ∀ r, o = .sent r → Told old p r s

/-- What transmits nothing leaves settled what is settled. -/
theorem Ensures.frameSettled {α : Type} {q : Program α} {Q : α → Scene → Prop}
    (h : (setting old p).Ensures Q q s) (quiet : q.Only fun c => c.isTransmission = false)
    (settled : Settled old p s) :
    (setting old p).Ensures (fun a t => Q a t ∧ Settled old p t) q s := by
  refine h.frame quiet Settled.of_others ?_ settled
  rintro c u a v quiet self may ⟨memory, served, rfl⟩ settled x hp
  have before := mem_transmissions_of_cons_of_not_isTransmission
    (Entry.isTransmission_of_call quiet) hp
  exact (self.sound.next may served).over_mono (List.suffix_cons _ _) (settled x before)

/-! ## Giving up -/

theorem failPending_only {P : Call → Prop} (id : MessageId) (find : P (.findMessage id))
    (time : P .now) (update : ∀ m, P (.updateMessage m)) : (failPending id).Only P := by
  refine Only.bindExcept (Only.orFail (only_request find)) fun found => ?_
  cases found with
  | none => exact only_pure _
  | some m =>
    dsimp only
    split
    · exact only_pure _
    · have moved : (do return m.transition .failed (← now) : Program _).Only P :=
        Only.bind (only_request time) fun _ => only_pure _
      refine Only.bindExcept (Only.orFail moved) fun m' => ?_
      exact Only.bindExcept (Only.orFail (only_request (update m'))) fun _ => only_pure _

theorem same_of_transition {m m' : Message} {status : MessageStatus} {now : Timestamp}
    (h : m.transition status now = .ok m') : m.Same m' := by
  unfold Message.transition at h
  split at h
  · cases h
    exact ⟨rfl, rfl, rfl, rfl, rfl⟩
  · cases h

/-- A message is given up by a later form of the record that was found. -/
theorem ensures_failPending (id : MessageId) :
    (setting old p).Ensures (fun _ _ => True) (failPending id) s := by
  refine (ensures_findMessage id).bindOrFail (fun found t ht hQ => ?_) fun _ _ _ _ => trivial
  obtain ⟨known, eq, knows⟩ := hQ t ht
  cases eq
  cases found with
  | none => exact ensures_pure fun _ _ => trivial
  | some m =>
    dsimp only
    split
    · exact ensures_pure fun _ _ => trivial
    · next notOver =>
      -- the clock is asked before the record is written, so others may come in between
      have knows := (knows m rfl).2
      have moved : (setting old p).Ensures
          (fun r u => Others old p t u ∧ ∀ m', r = .ok m' → m.Same m')
          (do return m.transition .failed (← now)) t :=
        (ensures_quiet (only_request rfl)).bind fun time u _ others =>
          ensures_pure fun v huv => ⟨others v huv, fun m' eq => same_of_transition eq⟩
      refine moved.bindOrFail (fun m' u hu hQ => ?_) fun _ _ _ _ => trivial
      obtain ⟨others, same⟩ := hQ u hu
      have begun := (knows.of_others others).begun (by simpa using notOver)
      have update := ensures_updateMessage (knows.of_others others) begun (same m' rfl)
      exact update.bindOrFail (fun _ _ _ _ => ensures_pure fun _ _ => trivial)
        fun _ _ _ _ => trivial

/-! ## The operations -/

/-- A worker settles what it has transmitted, and only then may it give the message up. -/
theorem ensures_processEvent (c : GatewayConfig) (e : QueueEvent) (unsent : Unsent p s) :
    (setting old p).Ensures (fun _ t => Settled old p t) (processEvent c e) s := by
  have giveUp (t : Scene) (settled : Settled old p t) : (setting old p).Ensures
      (fun _ t => Settled old p t) (do let _ ← bestEffort (failPending e.id)) t := by
    have quiet := failPending_only (P := fun c => c.isTransmission = false) e.id rfl rfl
      fun _ => rfl
    have failed := Ensures.frameSettled (ensures_failPending e.id) quiet settled
    exact failed.bindBestEffort fun _ u _ hQ => ensures_pure fun v huv => (hQ v huv).2
  unfold processEvent
  split
  · exact giveUp s fun x hx => (unsent x hx).elim
  · next input _ =>
    refine (ensures_send c input unsent).bind fun r t ht hQ => ?_
    have settled := (hQ t ht).settled
    cases r with
    | ok m => exact ensures_pure fun u htu => settled.of_others htu
    | error failure =>
      dsimp only
      split
      · exact giveUp t settled
      · exact ensures_pure fun u htu => settled.of_others htu

theorem submit_only {P : Call → Prop} (input : EnqueueInput) (name : P .newMessageId)
    (time : P .now) (create : ∀ m, P (.createMessage m)) (put : ∀ e, P (.enqueue e)) :
    (submit input).Only P := by
  refine Only.bindExcept (Only.orFail (only_pure _)) fun _ => ?_
  refine Only.bindExcept (Only.map (only_request name)) fun id => ?_
  refine Only.bindExcept (Only.map (only_request time)) fun now => ?_
  refine Only.bindExcept (Only.orFail (only_request (create _))) fun m => ?_
  exact Only.bindExcept (Only.map (Only.bestEffort (only_request (put _)))) fun _ => only_pure _

/-- The work on an event is a send, after which the message may be given up. -/
theorem processEvent_only {P : Call → Prop} (c : GatewayConfig) (e : QueueEvent)
    (sends : ∀ input, SendInput.ofEvent e = .ok input → (send c input).Only P)
    (givesUp : (failPending e.id).Only P) : (processEvent c e).Only P := by
  have giveUp : (do let _ ← bestEffort (failPending e.id) : Program Unit).Only P :=
    Only.bind (Only.bestEffort givesUp) fun _ => only_pure _
  unfold processEvent
  split
  · exact giveUp
  · next input asked =>
    refine Only.bind (sends input asked) fun r => ?_
    cases r with
    | ok m => exact only_pure _
    | error failure =>
      dsimp only
      split
      · exact giveUp
      · exact only_pure _

theorem enqueueAll_only {P : Call → Prop} (ms : List Message) (put : ∀ e, P (.enqueue e)) :
    (enqueueAll ms).Only P := by
  induction ms with
  | nil => exact only_pure _
  | cons m ms ih =>
    refine Only.bind (only_request (put _)) fun r => ?_
    cases r with
    | ok _ => exact Only.bind ih fun _ => only_pure _
    | error e => exact ih

theorem sweepOnce_only {P : Call → Prop} (batch : Nat) (find : P (.pendingMessages batch))
    (put : ∀ e, P (.enqueue e)) : (sweepOnce batch).Only P := by
  refine Only.bind (only_request find) fun r => ?_
  cases r with
  | ok ms => exact Only.bind (enqueueAll_only ms put) fun _ => only_pure _
  | error e => exact only_pure _

section

attribute [local irreducible] Setting.Ensures

/-- **What each operation ensures, whatever the others do.** -/
theorem ensures_operation (c : GatewayConfig) (op : Operation) (unsent : Unsent p s) :
    (setting old p).Ensures (Ended old p) (op.program c) s := by
  have settled : Settled old p s := fun x hx => (unsent x hx).elim
  cases op with
  | submit input =>
    have submitted : (setting old p).Ensures (fun _ _ => True) (submit input) s :=
      ensures_of_allowed (submit_only input (fun _ => trivial) (fun _ => trivial)
        (fun _ _ => trivial) fun _ _ => trivial)
    have quiet := submit_only (P := fun c => c.isTransmission = false) input rfl rfl
      (fun _ => rfl) fun _ => rfl
    refine (Ensures.frameSettled submitted quiet settled).map fun r t _ hQ => ?_
    exact ⟨hQ.2, fun _ eq => by cases eq⟩
  | send input =>
    refine (ensures_send c input unsent).map fun r t _ hQ => ⟨hQ.settled, fun r' eq => ?_⟩
    cases eq
    exact hQ.told
  | process e =>
    refine (ensures_processEvent c e unsent).map fun _ t _ settled => ?_
    exact ⟨settled, fun _ eq => by cases eq⟩
  | giveUp id =>
    have quiet := failPending_only (P := fun c => c.isTransmission = false) id rfl rfl
      fun _ => rfl
    have failed := Ensures.frameSettled (ensures_failPending id) quiet settled
    exact failed.map fun r t _ hQ => ⟨hQ.2, fun _ eq => by cases eq⟩
  | sweep batch =>
    refine (ensures_quiet (sweepOnce_only batch rfl fun _ => rfl)).map fun r t _ others => ?_
    exact ⟨settled.of_others others, fun _ eq => by cases eq⟩

end

/-! ## Runs -/

variable {c : GatewayConfig} {ops : Party → Operation} {m : Memory} {σ τ : System Outcome}

theorem allEnsure_begin : System.AllEnsure (setting m.messages) (Ended m.messages)
    (begin c ops m) := by
  intro p
  have self : Others m.messages p ⟨m, []⟩ ⟨m, []⟩ := ⟨sound_start m, List.suffix_rfl, rfl, id⟩
  have unsent : Unsent p ⟨m, []⟩ := fun x hx => List.not_mem_nil hx
  exact ⟨self, ensures_operation c (ops p) unsent⟩

theorem Run.allEnsure (run : System.Run service (begin c ops m) σ) :
    System.AllEnsure (setting m.messages) (Ended m.messages) σ :=
  System.Run.allEnsure (coherent _) allEnsure_begin run

/-- Every scene of a run is sound. -/
theorem Run.sound (run : System.Run service (begin c ops m) σ) : Sound m.messages σ.toScene :=
  (Run.allEnsure run 0).1.sound

/-- What an operation ensures holds when it has come to its end. -/
theorem Run.ended (run : System.Run service (begin c ops m) σ) {p : Party} {o : Outcome}
    (done : σ.parties p = .done o) : Ended m.messages p o σ.toScene :=
  (Run.allEnsure run).result done

/-- **No record goes back.** -/
theorem Run.continues (run : System.Run service (begin c ops m) σ)
    (later : System.Run service σ τ) {x : MessageId} {r : Message}
    (stored : (store σ.toScene).find? x = some r) :
    ∃ r', (store τ.toScene).find? x = some r' ∧ r.Continues r' := by
  have before := Run.sound run
  have after := Run.sound (run.trans later)
  rw [before.stored] at stored
  obtain ⟨r', stored', continues⟩ := after.forward later.log_suffix stored
  exact ⟨r', by rw [after.stored, stored'], continues⟩

end Delivery

end MessageGateway
