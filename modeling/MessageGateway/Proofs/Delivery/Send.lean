import MessageGateway.Proofs.Delivery.Reliance
import MessageGateway.Proofs.Dispatch.Footprint

/-!
# A send among others

What a send knows and has done, said so that it stays true whatever the others do in the meantime,
and what each call on the message store adds to it.

## Main definitions

* `Delivery.Knows`, `Delivery.Holds`: a party has read a record, or stored one
* `Delivery.Overtaken`: another party has stored how a delivery ended
* `Delivery.Concluded`: how the end of a delivery that a party was told fits what is stored

## Main results

* `Delivery.ensures_send`: what a send ensures, whatever the others do
-/

namespace MessageGateway

open Program Setting

namespace Delivery

variable {old : MessageStore} {x : MessageId} {p : Party} {s t : Scene} {m m' : Message}

/-! ## What stays true -/

/-- The party has read this record of the message. -/
structure Knows (old : MessageStore) (p : Party) (m : Message) (s : Scene) : Prop where
  row : ∃ r, row old m.id s.log = some r ∧ m.Continues r
  looked : Looked m.id p s.log
  begun : m.status.isTerminal = false → Begun old m.id p s.log

/-- The party has stored this record of the message, and none after it. -/
structure Holds (old : MessageStore) (p : Party) (m : Message) (s : Scene) : Prop where
  begun : Begun old m.id p s.log
  subject : subject? p s.log = some m.id
  stored : ∃ moment, moment <:+ s.log ∧ row old m.id moment = some m ∧ Looked m.id p moment ∧
    writes p s.log = writes p moment

/-- After the party had looked the record of `x` up, another one stored that the delivery has
ended with this status. -/
def Overtaken (x : MessageId) (status : MessageStatus) (p : Party) (log : List Entry) : Prop :=
  ∃ e before r, e :: before <:+ log ∧ Looked x p before ∧ e.party ≠ p ∧ e.written? = some r ∧
    r.id = x ∧ r.status = status

/-- The record tells how the delivery ended: what is stored has ended as well, and with the same
status unless the party was overtaken. -/
structure Concluded (old : MessageStore) (p : Party) (m : Message) (s : Scene) : Prop where
  terminal : m.status.isTerminal = true
  stored : ∃ r, row old m.id s.log = some r ∧ r.status.isTerminal = true ∧
    (r.status = m.status ∨ Overtaken m.id r.status p s.log)

/-- Every message that the party has transmitted satisfies `D`. -/
def SentOnly (D : MessageId → Prop) (p : Party) (s : Scene) : Prop :=
  ∀ x, p ∈ transmissions x s.log → D x

/-- The party has transmitted nothing. -/
abbrev Unsent : Party → Scene → Prop :=
  SentOnly fun _ => False

/-- The delivery of everything that the party has transmitted is over. -/
def Settled (old : MessageStore) (p : Party) (s : Scene) : Prop :=
  ∀ x, p ∈ transmissions x s.log → Over old x s.log

theorem Others.row (h : Others old p s t) {r : Message}
    (hr : Delivery.row old x s.log = some r) :
    ∃ r', Delivery.row old x t.log = some r' ∧ r.Continues r' :=
  h.sound.forward h.grows hr

theorem Others.ended (h : Others old p s t) (ended : Over old x s.log) : Over old x t.log :=
  h.sound.over_mono h.grows ended

theorem Knows.of_others (h : Others old p s t) (knows : Knows old p m s) : Knows old p m t := by
  obtain ⟨⟨r, hr, continues⟩, looked, begun⟩ := knows
  obtain ⟨r', hr', continues'⟩ := h.row hr
  exact ⟨⟨r', hr', continues.trans continues'⟩, looked.mono h.grows,
    fun notOver => (begun notOver).mono h.grows⟩

/-- A party holds a record for as long as it stores no other. -/
theorem Holds.mono (holds : Holds old p m s) (grows : s.log <:+ t.log)
    (nothing : writes p t.log = writes p s.log) : Holds old p m t := by
  obtain ⟨begun, subject, moment, before, hr, looked, since⟩ := holds
  refine ⟨begun.mono grows, ?_, moment, before.trans grows, hr, looked, nothing.trans since⟩
  rw [subject?, nothing]
  exact subject

theorem Holds.of_others (h : Others old p s t) (holds : Holds old p m s) : Holds old p m t :=
  holds.mono h.grows h.writes

theorem Settled.of_others (h : Others old p s t) (settled : Settled old p s) :
    Settled old p t :=
  fun x hp => h.ended (settled x (h.transmissions hp))

theorem SentOnly.of_others {D : MessageId → Prop} (h : Others old p s t) (only : SentOnly D p s) :
    SentOnly D p t :=
  fun x hp => only x (h.transmissions hp)

theorem Holds.knows (holds : Holds old p m s) (sound : Sound old s) : Knows old p m s := by
  obtain ⟨begun, -, moment, before, hr, -⟩ := holds
  exact ⟨sound.forward before hr, begun.looked, fun _ => begun⟩

/-- A record whose delivery is over is the last word of the party that reads it. -/
theorem Knows.concluded (knows : Knows old p m s) (ended : m.status.isTerminal = true) :
    Concluded old p m s := by
  obtain ⟨⟨r, hr, continues⟩, -, -⟩ := knows
  have same := continues.advances.eq_of_isTerminal ended
  exact ⟨ended, r, hr, by rw [same, ended], .inl same⟩

/-- Who stores a record as being sent is overtaken when it is found to have ended. -/
theorem Holds.overtaken (holds : Holds old p m s) (sending : m.status = .sending) {r : Message}
    (hr : row old m.id s.log = some r) (ended : r.status.isTerminal = true) :
    Overtaken m.id r.status p s.log := by
  obtain ⟨-, -, moment, hl, hm, looked, nothing⟩ := holds
  have ne : m ≠ r := by
    rintro rfl
    rw [sending] at ended
    cases ended
  obtain ⟨e, before, he, hb, wrote, named⟩ := exists_write hl hm hr ne
  exact ⟨e, before, r, he, looked.mono hb, party_ne_of_writes_eq nothing he hb wrote, wrote, named,
    rfl⟩

/-! ## The calls that are more than nothing to others -/

theorem holds_next {c : Call} {a : c.Answer} {memory : Memory}
    (wrote : Entry.written? ⟨p, c, a⟩ = some m) (begun : Begun old m.id p (⟨p, c, a⟩ :: s.log)) :
    Holds old p m (s.next p c a memory) where
  begun := begun
  subject := by
    show ((writes p (⟨p, c, a⟩ :: s.log)).head?.map Message.id) = some m.id
    rw [writes_cons_of_some wrote]
    rfl
  stored := ⟨_, List.suffix_rfl, by rw [Scene.next, row_cons_of_some wrote, if_pos rfl],
    begun.looked, rfl⟩

theorem ensures_findMessage (x : MessageId) : (setting old p).Ensures
    (fun a t => ∃ known, a = .ok known ∧ ∀ m ∈ known, m.id = x ∧ Knows old p m t)
    (findMessage x) s := by
  refine ensures_request fun t hst => ⟨trivial, ?_⟩
  rintro a u ⟨m, served, rfl⟩ v huv
  obtain ⟨rfl, -⟩ := service_findMessage served
  refine ⟨_, rfl, ?_⟩
  intro r found
  have named : r.id = x := Table.key_of_find? found
  subst named
  have hr : row old r.id t.log = some r := by rw [← hst.sound.stored]; exact found
  refine ⟨rfl, Knows.of_others huv ⟨⟨r, hr, .refl r⟩, ?_, fun notOver => ?_⟩⟩
  · exact ⟨_, List.mem_cons_self, rfl, rfl⟩
  · refine hst.sound.begun_of_lookup rfl ?_
    rintro ⟨r', hr', ended⟩
    rw [hr] at hr'
    cases hr'
    simp [notOver] at ended

theorem ensures_createMessage (m : Message) : (setting old p).Ensures
    (fun a t => ∀ m', a = .ok m' → m' = m ∧ Holds old p m t) (createMessage m) s := by
  refine ensures_request fun t hst => ⟨trivial, ?_⟩
  rintro a u ⟨memory, served, rfl⟩ v huv m' rfl
  obtain ⟨created, eq⟩ | ⟨e, eq, -⟩ := service_createMessage served
  · refine ⟨Except.ok.inj eq, ?_⟩
    refine Holds.of_others huv (holds_next rfl (hst.sound.begun_of_lookup rfl ?_))
    rintro ⟨r, hr, -⟩
    rw [← hst.sound.stored, (MessageStore.find?_of_create created).1] at hr
    cases hr
  · cases eq

/-- Storing a later form of a record that the party knows: if the store does not take it, nothing
has happened. -/
theorem ensures_updateMessage (knows : Knows old p m s) (begun : Begun old m.id p s.log)
    (same : m.Same m') : (setting old p).Ensures
    (fun a t => match a with
      | .ok _ => Holds old p m' t
      | .error _ => Others old p s t ∧ (m'.status.isTerminal = true → Over old m'.id t.log))
    (updateMessage m') s := by
  refine ensures_request fun t hst => ?_
  obtain ⟨⟨r, hr, continues⟩, -, -⟩ := knows.of_others hst
  rw [← same.id] at hr begun
  have may : May old p (.updateMessage m') t := by
    intro r' hr'
    rw [hr] at hr'
    cases hr'
    exact continues.toSame.symm.trans same
  refine ⟨may, ?_⟩
  rintro a u ⟨memory, served, rfl⟩ v huv
  obtain ⟨-, rfl⟩ | ⟨e, refused, rfl, eq⟩ := service_updateMessage served
  · exact Holds.of_others huv (holds_next rfl (begun.mono (hst.grows.trans (List.suffix_cons _ _))))
  · -- to the others a refused write is nothing but one more call
    have next : Others old p t (t.next p (.updateMessage m') (.error e) memory) :=
      ⟨hst.sound.next may served, List.suffix_cons _ _, writes_cons_of_none rfl,
        mem_transmissions_of_cons_of_not_isTransmission rfl⟩
    have others := (setting old p).rely_trans next huv
    refine ⟨(setting old p).rely_trans hst others, fun ended => others.ended ?_⟩
    -- a store that refuses the end of a delivery has one
    refine ⟨r, hr, by_contra fun notOver => ?_⟩
    have found : t.memory.messages.find? m'.id = some r := by rw [← hr]; exact hst.sound.stored _
    obtain ⟨s', taken⟩ := MessageStore.exists_update_eq_ok found
      (MessageStatus.allows_of_isTerminal (Bool.not_eq_true _ ▸ notOver) ended)
    rw [refused] at taken
    cases taken

theorem ensures_transmit {i : InstanceId} {address : Address} {outbound : Outbound}
    (holds : Holds old p m s) (unsent : Unsent p s) : (setting old p).Ensures
    (fun _ t => Holds old p m t ∧ SentOnly (· = m.id) p t)
    (transmit i address outbound) s := by
  refine ensures_request fun t hst => ?_
  have unsent : Unsent p t := unsent.of_others hst
  have holds := holds.of_others hst
  have may : May old p (.transmit i address outbound) t :=
    ⟨unsent, m.id, holds.subject, holds.begun⟩
  refine ⟨may, ?_⟩
  rintro a u ⟨memory, served, rfl⟩ v huv
  constructor
  · exact Holds.of_others huv (holds.mono (List.suffix_cons _ _) (writes_cons_of_none rfl))
  · intro y hp
    obtain ⟨-, subject, -⟩ | hp := mem_transmissions_cons.1 (huv.transmissions hp)
    · rw [holds.subject] at subject
      exact (Option.some.inj subject).symm
    · exact (unsent y hp).elim

/-! ## The parts of a send -/

/-- A program that neither stores a record nor transmits a message does no more than the others. -/
theorem ensures_quiet {α : Type} {q : Program α} (only : q.Only fun c => c.isDeed = false) :
    (setting old p).Ensures (fun _ t => Others old p s t) q s :=
  ensures_of_only (only.mono fun _ h => silent h) fun _ _ h => h

/-- What transmits nothing leaves alone what has been transmitted. -/
theorem Ensures.frameSent {α : Type} {q : Program α} {Q : α → Scene → Prop}
    {D : MessageId → Prop} (h : (setting old p).Ensures Q q s)
    (quiet : q.Only fun c => c.isTransmission = false) (sent : SentOnly D p s) :
    (setting old p).Ensures (fun a t => Q a t ∧ SentOnly D p t) q s := by
  refine h.frame quiet SentOnly.of_others ?_ sent
  rintro c u a v quiet - - ⟨memory, -, rfl⟩ sent x hp
  refine sent x (mem_transmissions_of_cons_of_not_isTransmission ?_ hp)
  exact Entry.isTransmission_of_call quiet

theorem ensures_existing (id : Option MessageId) : (setting old p).Ensures
    (fun r t => ∀ known, r = .ok known → ∀ m ∈ known, Knows old p m t)
    (Dispatch.existing id).run s := by
  cases id with
  | none =>
    refine ensures_pure ?_
    intro t hst known eq m hm
    cases eq
    cases hm
  | some x =>
    refine Ensures.orFail (ensures_findMessage x) ?_ ?_
    · rintro a t - ⟨known, eq, knows⟩ known' eq' m hm
      cases eq
      cases eq'
      exact (knows m hm).2
    · rintro e t - ⟨known, eq, -⟩
      cases eq

/-- The party is about to store a record, which continues the one that it has found. -/
structure Ready (old : MessageStore) (p : Party) (known : Option Message) (s : Scene) : Prop where
  knows : ∀ m ∈ known, Knows old p m s ∧ m.status.isTerminal = false
  unsent : Unsent p s

theorem Ready.of_others {known : Option Message} (h : Others old p s t)
    (ready : Ready old p known s) : Ready old p known t where
  knows m hm := ⟨(ready.knows m hm).1.of_others h, (ready.knows m hm).2⟩
  unsent := ready.unsent.of_others h

theorem ensures_store (input : SendInput) {known : Option Message} (outbound : Outbound)
    (ready : Ready old p known s) : (setting old p).Ensures
      (fun r t => ∀ m, r = .ok m → Holds old p m t ∧ m.status = .sending)
      (Dispatch.store input known outbound).run s := by
  refine Ensures.bindLift (ensures_quiet (only_request rfl)) fun time t ht others => ?_
  have others := others t ht
  cases known with
  | some m =>
    obtain ⟨knows, notOver⟩ := ready.knows m rfl
    have allowed := MessageStatus.allows_sending notOver
    simp only [Message.transition, allowed, if_true]
    let m' : Message := { m with payload := outbound.summary, status := .sending, updated := time }
    have same : m.Same m' := ⟨rfl, rfl, rfl, rfl, rfl⟩
    have begun : Begun old m.id p t.log := (knows.begun notOver).mono others.grows
    show (setting old p).Ensures _ (do
      orFail .ofStore (updateMessage m')
      return m' : ExceptT SendFailure Program Message).run t
    have update := ensures_updateMessage (knows.of_others others) begun same
    refine update.bindOrFail (fun _ u _ holds => ?_) fun e u _ _ m eq => ?_
    · refine ensures_pure fun v huv m eq => ?_
      cases eq
      exact ⟨holds v huv, rfl⟩
    · cases eq
  | none =>
    have created (id : MessageId) (u : Scene) : (setting old p).Ensures
        (fun r t => ∀ m, r = .ok m → Holds old p m t ∧ m.status = .sending)
        (orFail .ofStore (createMessage (.make id input.owner input.recipient input.content.kind
          outbound.summary .sending time)) : ExceptT SendFailure Program Message).run u := by
      refine Ensures.orFail (ensures_createMessage _) (fun a v _ hQ m eq => ?_)
        fun e v _ _ m eq => ?_
      · obtain ⟨rfl, holds⟩ := hQ a rfl
        cases eq
        exact ⟨holds, rfl⟩
      · cases eq
    dsimp only
    cases input.id with
    | some id => exact created id t
    | none => exact Ensures.bindLift (ensures_quiet (only_request rfl)) fun id u _ _ => created id u

theorem ensures_settle {status : MessageStatus} (holds : Holds old p m s)
    (sending : m.status = .sending) (terminal : status.isTerminal = true) :
    (setting old p).Ensures
      (fun m' t => m'.id = m.id ∧ m'.status = status ∧ Concluded old p m' t)
      (Dispatch.settle m status) s := by
  unfold Dispatch.settle
  refine Ensures.bind (ensures_quiet (only_request rfl)) fun time t ht others => ?_
  have others := others t ht
  have allowed : m.status.allows status = true := by
    rw [sending]
    exact MessageStatus.allows_of_isTerminal rfl terminal
  simp only [Message.transition, allowed, if_true]
  let m' : Message := { m with status := status, updated := time }
  have same : m.Same m' := ⟨rfl, rfl, rfl, rfl, rfl⟩
  have holds := holds.of_others others
  show (setting old p).Ensures _ (do
    let _ ← bestEffort (updateMessage m')
    return m') t
  have update := ensures_updateMessage (holds.knows others.sound) holds.begun same
  refine update.bindBestEffort fun r u hu hQ => ensures_pure fun v huv => ⟨rfl, rfl, ?_⟩
  have sound : Sound old v := huv.sound
  cases r with
  | ok _ => exact ((hQ v huv).knows sound).concluded terminal
  | error e =>
    obtain ⟨others, ended⟩ := hQ v huv
    obtain ⟨r, hr, ended⟩ := ended terminal
    have overtaken := (holds.of_others others).overtaken sending hr ended
    exact ⟨terminal, r, hr, ended, .inr overtaken⟩

/-- What the result of a send tells about its record. -/
def Told (old : MessageStore) (p : Party) : Except SendFailure Message → Scene → Prop
  | .ok m, s => Concluded old p m s
  | .error failure, s => ∀ m ∈ failure.record, m.status = .failed ∧ Concluded old p m s

/-- What a send leaves behind when it is done. -/
structure Finished (old : MessageStore) (p : Party) (r : Except SendFailure Message)
    (s : Scene) : Prop where
  told : Told old p r s
  settled : Settled old p s

theorem Concluded.ended (h : Concluded old p m s) : Over old m.id s.log := by
  obtain ⟨-, r, hr, ended, -⟩ := h
  exact ⟨r, hr, ended⟩

/-- Once the record is settled, the delivery of all that was transmitted is over. -/
theorem ensures_settled {status : MessageStatus} (holds : Holds old p m s)
    (only : SentOnly (· = m.id) p s) (sending : m.status = .sending)
    (terminal : status.isTerminal = true) :
    (setting old p).Ensures
      (fun m' t => m'.status = status ∧ Concluded old p m' t ∧ Settled old p t)
      (Dispatch.settle m status) s := by
  have settle := Ensures.frameSent (ensures_settle holds sending terminal)
    (Dispatch.settle_only rfl fun _ => rfl) only
  refine settle.mono fun m' t _ ⟨⟨named, same, concluded⟩, only⟩ => ⟨same, concluded, ?_⟩
  intro x hp
  rw [only x hp, ← named]
  exact concluded.ended

theorem ensures_deliver {i : InstanceId} {address : Address} {outbound : Outbound}
    (holds : Holds old p m s) (sending : m.status = .sending) (unsent : Unsent p s) :
    (setting old p).Ensures (Finished old p)
      (Dispatch.deliver m i address outbound).run s := by
  refine (ensures_transmit holds unsent).bindLift fun answer t ht hQ => ?_
  obtain ⟨holds, only⟩ := hQ t ht
  cases answer with
  | ok _ =>
    have settle : (setting old p).Ensures _ (Dispatch.settle m .sent) t :=
      ensures_settled holds only sending rfl
    exact settle.map fun m' u _ ⟨_, concluded, settled⟩ => ⟨concluded, settled⟩
  | error e =>
    have settle : (setting old p).Ensures _ (Dispatch.settle m .failed) t :=
      ensures_settled holds only sending rfl
    refine settle.bindLift fun m' u hu hQ => ensures_pure fun v huv => ?_
    obtain ⟨same, concluded, settled⟩ := hQ v huv
    refine ⟨?_, settled⟩
    rintro m ⟨⟩
    exact ⟨same, concluded⟩

/-- A failure without a record tells nothing, and a party that has transmitted nothing has nothing
to settle. -/
theorem finished_of_unsent {failure : SendFailure} (traceless : failure.record = none)
    (unsent : Unsent p s) : Finished old p (.error failure) s := by
  constructor
  · intro m hm
    rw [traceless] at hm
    cases hm
  · intro x hp
    exact (unsent x hp).elim

/-- A part of a send that neither stores a record nor transmits, and of which no failure has a
record. -/
theorem Ensures.bindQuiet {α : Type} {x : ExceptT SendFailure Program α}
    {f : α → ExceptT SendFailure Program Message} (only : x.run.Only fun c => c.isDeed = false)
    (traceless : Dispatch.Traceless x) (unsent : Unsent p s)
    (hf : ∀ a t, Others old p s t → (setting old p).Ensures
      (Finished old p) (f a).run t) :
    (setting old p).Ensures (Finished old p) (x >>= f).run s := by
  refine ((ensures_quiet only).ends traceless).bindExcept (fun a t ht hQ => ?_) fun e t _ hQ => ?_
  · exact hf a t (hQ t ht).1
  · exact finished_of_unsent (hQ.2 e rfl) (unsent.of_others hQ.1)

theorem ensures_proceed (c : GatewayConfig) (input : SendInput) {known : Option Message}
    (ready : Ready old p known s) : (setting old p).Ensures
      (Finished old p) (Dispatch.proceed c input known).run s := by
  unfold Dispatch.proceed
  refine Ensures.bindQuiet (Dispatch.checkInstance_only rfl) (Dispatch.checkInstance_traceless _)
    ready.unsent fun _ t others => ?_
  have ready := ready.of_others others
  refine Ensures.bindQuiet (Dispatch.checkSession_only rfl rfl fun _ => rfl)
    (Dispatch.checkSession_traceless _) ready.unsent fun _ u others => ?_
  have ready := ready.of_others others
  have prepare := (Dispatch.prepare_only c input).mono fun _ => Call.not_isDeed_of_isPreparation
  refine Ensures.bindQuiet prepare (Dispatch.prepare_traceless c input) ready.unsent
    fun (address, outbound) v others => ?_
  have ready := ready.of_others others
  have store := Ensures.frameSent (ensures_store input outbound ready)
    (Dispatch.store_only rfl rfl (fun _ => rfl) (fun _ => rfl)) ready.unsent
  refine (store.ends (Dispatch.store_traceless _ _ _)).bindExcept (fun m w hw hQ => ?_)
    fun e w _ hQ => finished_of_unsent (hQ.2 e rfl) hQ.1.2
  obtain ⟨⟨holds, unsent⟩, -⟩ := hQ w hw
  obtain ⟨holds, sending⟩ := holds m rfl
  exact ensures_deliver holds sending unsent

/-- **What a send ensures, whatever the others do**: its result fits what is stored, and the
delivery of what it transmitted is over. -/
theorem ensures_send (c : GatewayConfig) (input : SendInput) (unsent : Unsent p s) :
    (setting old p).Ensures (Finished old p) (send c input) s := by
  unfold send
  split
  · exact ensures_pure fun t hst => finished_of_unsent rfl (unsent.of_others hst)
  · have existing : (setting old p).Ensures _ (Dispatch.existing input.id).run s :=
      Ensures.frameSent (ensures_existing input.id) (Dispatch.existing_only fun _ _ => rfl) unsent
    refine (existing.ends (Dispatch.existing_traceless _)).bindExcept (fun known t ht hQ => ?_)
      fun e t _ hQ => finished_of_unsent (hQ.2 e rfl) hQ.1.2
    split
    · next m hm =>
      obtain ⟨found, ended⟩ := Option.filter_eq_some_iff.1 hm
      refine ensures_pure fun u htu => ?_
      obtain ⟨⟨knows, unsent⟩, -⟩ := hQ u htu
      exact ⟨(knows known rfl m found).concluded ended, fun x hx => (unsent x hx).elim⟩
    · next notOver =>
      obtain ⟨⟨knows, unsent⟩, -⟩ := hQ t ht
      refine ensures_proceed c input ⟨fun m hm => ⟨knows known rfl m hm, ?_⟩, unsent⟩
      exact Dispatch.notOver_of_filter notOver m hm

end Delivery

end MessageGateway
