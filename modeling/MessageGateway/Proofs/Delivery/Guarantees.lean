import MessageGateway.Proofs.Delivery.Operations

/-!
# What holds of deliveries in every run

No claim is made on a message while a party works on it, and the store keeps the end of a delivery
that comes first. So two sends of one message may both transmit it, and a send may be told another
end than the store keeps; but only if they run at the same time. No order of calls brings a
delivery back.

## Main definitions

* `Delivery.Sample`: a message, a network without trouble, and two orders of calls

## Main results

* `Delivery.records_continue`: records stay what they are, and deliveries only go forward
* `Delivery.exists_mem_transmissions`: the transmissions of messages are all there are
* `Delivery.transmissions_overlap`: when a message may be transmitted
* `Delivery.result_fits_store`: how the result of a send fits what is stored
-/

namespace MessageGateway

namespace Delivery

variable {c : GatewayConfig} {ops : Party → Operation} {m : Memory} {σ τ : System Outcome}
  {x : MessageId} {p q : Party}

/-! ## Sample runs -/

namespace Sample

/-- A text that waits for its delivery. -/
def record : Message :=
  .make ⟨5⟩ ⟨"A"⟩ "1@g.us" .text "hello" .queued ⟨0, 0⟩

/-- A memory with the text and its instance. -/
def memory : Memory where
  messages := Table.empty.insert record
  instances := Table.empty.insert (.make ⟨"A"⟩ .active)

/-- The answers of a network without trouble, and of clocks that stand still. -/
def network : (c : Call) → Option c.Answer
  | .openSession i => some (.ok ⟨i, true⟩)
  | .sessionReady _ => some true
  | .transmit .. => some (.ok ())
  | .elapsed => some (0 : Nat)
  | .now => some (⟨0, 0⟩ : Timestamp)
  | _ => none

/-- The memory answers what it can, and the network the rest. -/
def answer? (c : Call) (m : Memory) : Option (c.Answer × Memory) :=
  (m.answer? c).or ((network c).map fun a => (a, m))

theorem service_of_answer? (c : Call) (m : Memory) (a : c.Answer) (m' : Memory)
    (h : answer? c m = some (a, m')) : service m c a m' := by
  cases hc : m.answer? c with
  | some r =>
    rw [answer?, hc, Option.some_or] at h
    rw [h] at hc
    exact Delivery.service_of_answer? hc
  | none =>
    rw [answer?, hc, Option.none_or, Option.map_eq_some_iff] at h
    obtain ⟨b, hb, eq⟩ := h
    cases eq
    cases c <;> first | rfl | cases hb

/-- All parties deal with the event of the text. -/
def workers : System Outcome :=
  begin {} (fun _ => .process (.ofMessage record)) memory

/-- One party sends the text, and all others give it up. -/
def quarrel : System Outcome :=
  begin {} (fun p => if p = 0 then
    .send ⟨record.owner, record.recipient, .text "hello", some record.id⟩
    else .giveUp record.id) memory

/-- The parties make their calls in this order. -/
def after (schedule : List Party) (s : System Outcome) : System Outcome :=
  System.play answer? schedule s

theorem run_after (schedule : List Party) (s : System Outcome) :
    System.Run service s (after schedule s) :=
  System.run_play service_of_answer? schedule s

end Sample

/-! ## Records -/

/-- **No regression, no loss, stable identity**: whatever runs at the same time, a record that is
stored is stored ever after, as a record of the same message; its delivery only goes forward, and
once it is over it stays as it is. -/
theorem records_continue (before : System.Run service (begin c ops m) σ)
    (after : System.Run service σ τ) {r : Message} (stored : (store σ.toScene).find? x = some r) :
    ∃ r', (store τ.toScene).find? x = some r' ∧
      r'.id = r.id ∧ r'.owner = r.owner ∧ r'.recipient = r.recipient ∧ r'.kind = r.kind ∧
      r'.created = r.created ∧ r.status.Advances r'.status ∧
      (r.status.isTerminal = true → r'.status = r.status) := by
  obtain ⟨r', stored', continues⟩ := Run.continues before after stored
  exact ⟨r', stored', continues.id, continues.owner, continues.recipient, continues.kind,
    continues.created, continues.advances, continues.advances.eq_of_isTerminal⟩

/-- The text of the sample goes forward while two workers deal with it. -/
theorem records_continue_sample : ∃ r',
    (store (Sample.after (List.replicate 8 [0, 1]).flatten Sample.workers).toScene).find?
        Sample.record.id = some r' ∧
      r'.created = Sample.record.created ∧ Sample.record.status.Advances r'.status := by
  obtain ⟨r', stored, -, -, -, -, created, advances, -⟩ :=
    records_continue .refl (Sample.run_after (List.replicate 8 [0, 1]).flatten Sample.workers)
      (x := Sample.record.id) (r := Sample.record) rfl
  exact ⟨r', stored, created, advances⟩

/-! ## Transmissions -/

/-- The stored record of the message tells that its delivery is over. -/
def StoredOver (x : MessageId) (s : Scene) : Prop :=
  ∃ r, (store s).find? x = some r ∧ r.status.isTerminal = true

theorem Sound.storedOver_iff {old : MessageStore} {s : Scene} (sound : Sound old s) :
    StoredOver x s ↔ Over old x s.log := by
  rw [StoredOver, Over, sound.stored]

/-- Whatever is transmitted is counted as the transmission of some message. -/
theorem exists_mem_transmissions (run : System.Run service (begin c ops m) σ) {e : Entry}
    (he : e ∈ σ.log) (transmits : e.isTransmission = true) :
    ∃ x, e.party ∈ transmissions x σ.log := by
  obtain ⟨later, before, eq⟩ := List.append_of_mem he
  have hl : e :: before <:+ σ.log := ⟨later, eq.symm⟩
  obtain ⟨x, subject⟩ := (Run.sound run).named hl transmits
  refine ⟨x, transmissions_mono hl ?_⟩
  rw [transmissions, if_pos ⟨transmits, subject⟩]
  exact List.mem_cons_self

/-- **Transmissions of one message overlap**: an operation transmits a message at most once; when
one that has transmitted it is done, the stored record tells that the delivery is over; and from
then on only those transmit it that had looked its record up before. -/
theorem transmissions_overlap (before : System.Run service (begin c ops m) σ)
    (after : System.Run service σ τ) (x : MessageId) :
    (transmissions x τ.log).Nodup ∧
      (StoredOver x σ.toScene → ∀ q ∈ transmissions x τ.log, Looked x q σ.log) ∧
      ∀ p ∈ transmissions x σ.log, ∀ o, σ.parties p = .done o →
        StoredOver x σ.toScene ∧ ∀ q ∈ transmissions x τ.log, Looked x q σ.log := by
  have sound := Run.sound before
  have later := Run.sound (before.trans after)
  have looked (ended : StoredOver x σ.toScene) : ∀ q ∈ transmissions x τ.log, Looked x q σ.log :=
    fun q hq => (later.begun hq).before _ after.log_suffix (sound.storedOver_iff.1 ended)
  refine ⟨later.once x, looked, fun p hp o done => ?_⟩
  have ended := sound.storedOver_iff.2 ((Run.ended before done).settled x hp)
  exact ⟨ended, looked ended⟩

/-- One worker has transmitted the text of the sample and is done, and another one begins. -/
theorem transmissions_overlap_sample :
    transmissions Sample.record.id (Sample.after (List.replicate 11 0) Sample.workers).log = [0] ∧
      ∀ q ∈ transmissions Sample.record.id
          (Sample.after (List.replicate 11 1)
            (Sample.after (List.replicate 11 0) Sample.workers)).log,
        Looked Sample.record.id q (Sample.after (List.replicate 11 0) Sample.workers).log := by
  have sent : transmissions Sample.record.id
      (Sample.after (List.replicate 11 0) Sample.workers).log = [0] := by decide
  have overlap := transmissions_overlap (Sample.run_after (List.replicate 11 0) Sample.workers)
    (Sample.run_after (List.replicate 11 1) _) Sample.record.id
  exact ⟨sent, (overlap.2.2 0 (by rw [sent]; exact List.mem_cons_self) _ rfl).2⟩

/-- Two workers that deal with the same event at the same time both transmit the text. -/
theorem transmitted_twice : ¬∀ σ, System.Run service Sample.workers σ →
    ∀ x, (transmissions x σ.log).length ≤ 1 := by
  intro once
  have twice := once _ (Sample.run_after (List.replicate 11 [0, 1]).flatten Sample.workers)
    Sample.record.id
  revert twice
  decide

/-! ## Results -/

/-- The record tells how its delivery ended: what is stored has ended, and in the same way unless
another party stored that it ended otherwise, after this one had looked the record up. -/
structure Fits (p : Party) (m : Message) (s : Scene) : Prop where
  terminal : m.status.isTerminal = true
  stored : ∃ r, (store s).find? m.id = some r ∧ r.status.isTerminal = true ∧
    (r.status = m.status ∨ Overtaken m.id r.status p s.log)

theorem Concluded.fits {old : MessageStore} {s : Scene} {m : Message} (sound : Sound old s)
    (concluded : Concluded old p m s) : Fits p m s := by
  obtain ⟨terminal, r, hr, rest⟩ := concluded
  exact ⟨terminal, r, by rw [sound.stored, hr], rest⟩

/-- **The result of a send fits what is stored**, when it is given and ever after. -/
theorem result_fits_store (run : System.Run service (begin c ops m) σ)
    {r : Except SendFailure Message} (done : σ.parties p = .done (.sent r)) :
    (∀ m', r = .ok m' → Fits p m' σ.toScene) ∧
      ∀ failure m', r = .error failure → failure.record = some m' →
        m'.status = .failed ∧ Fits p m' σ.toScene := by
  have sound := Run.sound run
  have told := (Run.ended run done).told r rfl
  constructor
  · rintro m' rfl
    exact Concluded.fits sound told
  · rintro failure m' rfl hm
    obtain ⟨failed, concluded⟩ := told m' hm
    exact ⟨failed, concluded.fits sound⟩

/-- A send of the sample that is left alone. -/
theorem result_fits_store_sample :
    Fits 0 { Sample.record with status := .sent }
      (Sample.after (List.replicate 11 0) Sample.quarrel).toScene :=
  (result_fits_store (Sample.run_after (List.replicate 11 0) Sample.quarrel) rfl).1 _ rfl

/-- A send that has transmitted its message is told so, though the message was given up before it
could store that. -/
theorem sent_but_failed : ¬∀ σ m', System.Run service Sample.quarrel σ →
    σ.parties 0 = .done (.sent (.ok m')) → m'.status = .sent →
    ((store σ.toScene).find? m'.id).map Message.status = some .sent := by
  intro agree
  -- the text is given up after its transmission, before the sender stores how that went
  have sent := agree _ _ (Sample.run_after (List.replicate 9 0 ++ [1, 1, 1, 0, 0]) Sample.quarrel)
    rfl rfl
  revert sent
  decide

end Delivery

end MessageGateway
