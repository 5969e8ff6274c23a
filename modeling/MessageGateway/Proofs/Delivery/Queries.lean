import MessageGateway.Proofs.Delivery.Listing

/-!
# What queries find and sweeps put back

Unfinished records are listed by the time at which they were made, then by name, and no two of them
stand alike in this order. So what a query finds is settled by the records that there are, whatever
was written before and in whatever order the records are gone through. A sweep offers the events of
these records to the queue in turn. Each of them is taken or refused on its own account, and a
refusal keeps no later one from being offered.

## Main definitions

* `Message.Before`: the order of the list
* `MessageStore.Write`, `MessageStore.written`: writes in turn, of which some may be refused
* `Solo.screened`: a memory whose queue may refuse events one by one
* `Delivery.Offered`: what a sweep over such a queue comes to

## Main results

* `MessageStore.pairwise_before_listing`: the list is in strict order
* `MessageStore.listing_congr`: the list depends only on which records there are
* `Delivery.ensures_offered`: a sweep alone, over a queue that refuses some events
* `Delivery.queries_and_sweeps_exact`: all of this, after any writes
-/

namespace MessageGateway

open Program Setting

/-! ## The order of the list -/

namespace Message

variable {a b : Message}

/-- The record `a` was made earlier than `b`, or at the same time and under a smaller name. -/
def Before (a b : Message) : Prop :=
  a.created.precedes b.created = true ∨ a.created = b.created ∧ a.id.precedes b.id = true

/-- Records with different names that are listed in their order are in strict order. -/
theorem before_of_listedBefore (h : a.listedBefore b = true) (apart : a.id ≠ b.id) :
    a.Before b := by
  have values : a.id.value.toNat ≠ b.id.value.toNat := fun same =>
    apart (congrArg Id.mk (BitVec.eq_of_toNat_eq same))
  simp only [listedBefore, Bool.or_eq_true, Bool.and_eq_true, beq_iff_eq, Bool.not_eq_true',
    Id.precedes, decide_eq_false_iff_not] at h
  rcases h with earlier | ⟨same, smaller⟩
  · exact .inl earlier
  · refine .inr ⟨same, decide_eq_true ?_⟩
    omega

end Message

namespace MessageStore

variable {s t : MessageStore} {batch : Nat}

theorem listing_perm (s : MessageStore) : s.listing.Perm s.unfinished :=
  List.mergeSort_perm _ _

/-- **The list is in strict order.** -/
theorem pairwise_before_listing (s : MessageStore) : s.listing.Pairwise Message.Before := by
  have names : s.listing.Pairwise fun a b => a.id ≠ b.id :=
    List.pairwise_map.1 s.nodup_map_id_listing
  exact (s.pairwise_listing.and names).imp fun h => Message.before_of_listedBefore h.1 h.2

/-- **The list depends only on which records there are.** -/
theorem listing_congr (same : ∀ r, r ∈ t.rows ↔ r ∈ s.rows) : t.listing = s.listing := by
  have distinct (u : MessageStore) : u.unfinished.Nodup :=
    List.Pairwise.of_map Message.id (fun _ _ apart same => apart (congrArg _ same))
      ((List.filter_sublist.map _).nodup u.distinct)
  have members : t.unfinished.Perm s.unfinished := by
    refine (List.perm_ext_iff_of_nodup (distinct t) (distinct s)).2 fun r => ?_
    simp only [unfinished, List.mem_filter, same]
  have perm := t.listing_perm.trans (members.trans s.listing_perm.symm)
  refine perm.eq_of_pairwise (fun a b ha hb hab hba => ?_) t.pairwise_listing s.pairwise_listing
  have foundA := (mem_listing.1 (perm.mem_iff.1 ha)).1
  have foundB := (mem_listing.1 hb).1
  rw [Message.id_eq_of_listedBefore hab hba, foundB] at foundA
  exact (Option.some.inj foundA).symm

/-! ## Writes in turn -/

/-- A write of a record. -/
inductive Write where
  /-- A new record. -/
  | create (r : Message)
  /-- A record in the place of that of its name. -/
  | update (r : Message)

/-- The store after a write. When it refuses the write it stays as it is. -/
def write (s : MessageStore) : Write → MessageStore
  | .create r => (s.create r).toOption.getD s
  | .update r => (s.update r).toOption.getD s

/-- The store after writes in turn. -/
def written (ws : List Write) : MessageStore :=
  ws.foldl write .empty

end MessageStore

/-! ## A queue that refuses some events -/

/-- The memory answers, but of the events for its queue some may be refused before they come to it:
`refuse` tells which, and may remember what it was asked. -/
def Solo.screened {ω : Type} (refuse : QueueEvent → ω → Option QueueError × ω) :
    (c : Call) → Solo ω → c.Answer × Solo ω
  | .enqueue e, s =>
    match refuse e s.world with
    | (some err, w) => (.error err, ⟨s.memory, w, ⟨.enqueue e, .error err⟩ :: s.log⟩)
    | (none, w) => Solo.answer (fun c w => (c.unanswered, w)) (.enqueue e) ⟨s.memory, w, s.log⟩
  | c, s => Solo.answer (fun c w => (c.unanswered, w)) c s

namespace Delivery

variable {ω : Type} {refuse : QueueEvent → ω → Option QueueError × ω} {s t : Solo ω} {m : Memory}
  {batch : Nat}

/-- The event of a record was offered to the queue and answered like this. -/
def offered (o : Message × Except QueueError Unit) : Exchange :=
  ⟨.enqueue (.ofMessage o.1), o.2⟩

/-- The queue with the events of those records that it has taken. -/
def taking (q : DeliveryQueue) (offers : List (Message × Except QueueError Unit)) : DeliveryQueue :=
  { q with events := q.events ++ (offers.filter fun o => o.2.isOk).map fun o => .ofMessage o.1 }

/-- What a sweep on the memory `m` comes to: the event of each record that its query finds is
offered once, in their order; the queue has those that were taken after all others, and the result
tells how many they are. -/
structure Offered (batch : Nat) (m : Memory) (result : Except StoreError Nat) (t : Solo ω) :
    Prop where
  rest : t.memory = { m with queue := t.memory.queue }
  offers : ∃ offers : List (Message × Except QueueError Unit),
    offers.map Prod.fst = m.messages.pending batch ∧
    t.log = (offers.map offered).reverse ++
      [⟨.pendingMessages batch, .ok (m.messages.pending batch)⟩] ∧
    result = .ok (offers.filter fun o => o.2.isOk).length ∧
    t.memory.queue = taking m.queue offers

theorem taking_nil (q : DeliveryQueue) : taking q [] = q := by
  simp [taking]

theorem taking_cons (q : DeliveryQueue) (o : Message × Except QueueError Unit)
    (os : List (Message × Except QueueError Unit)) :
    taking q (o :: os) = taking (taking q [o]) os := by
  cases h : o.2.isOk <;> simp [taking, h]

/-- **One offer**: the event is taken or refused, and nothing else comes of it. -/
theorem screened_enqueue {r : Message} {a : Except QueueError Unit}
    (served : Solo.screened refuse (.enqueue (.ofMessage r)) s = (a, t)) :
    t.memory = { s.memory with queue := taking s.memory.queue [(r, a)] } ∧
      t.log = offered (r, a) :: s.log := by
  simp only [Solo.screened] at served
  split at served
  · cases served
    simp [taking, offered, Except.isOk, Except.toBool]
  · simp only [Solo.answer, Memory.answer?] at served
    cases taken : s.memory.queue.enqueue (.ofMessage r) with
    | ok queue =>
      rw [taken] at served
      cases served
      unfold DeliveryQueue.enqueue at taken
      split at taken <;> cases taken
      exact ⟨rfl, rfl⟩
    | error err =>
      rw [taken] at served
      cases served
      simp [taking, offered, Except.isOk, Except.toBool]

theorem ensures_offers_screened (rs : List Message) : (alone (Solo.screened refuse)).Ensures
    (fun n t => t.memory = { s.memory with queue := t.memory.queue } ∧
      ∃ offers : List (Message × Except QueueError Unit), offers.map Prod.fst = rs ∧
        t.log = (offers.map offered).reverse ++ s.log ∧
        n = (offers.filter fun o => o.2.isOk).length ∧
        t.memory.queue = taking s.memory.queue offers)
    (enqueueAll rs) s := by
  induction rs generalizing s with
  | nil =>
    rintro _ rfl
    exact ⟨rfl, [], rfl, rfl, rfl, (taking_nil _).symm⟩
  | cons r rs ih =>
    have offer : (alone (Solo.screened refuse)).Ensures
        (fun a t => t.memory = { s.memory with queue := taking s.memory.queue [(r, a)] } ∧
          t.log = offered (r, a) :: s.log) (enqueue (.ofMessage r)) s := by
      refine ensures_request fun _ same => ⟨trivial, fun a u served v eq => ?_⟩
      cases same
      cases eq
      exact screened_enqueue served
    refine offer.bind fun a t _ hQ => ?_
    obtain ⟨memory, log⟩ := hQ t rfl
    have joined {n : Nat} {u : Solo ω} (rest : u.memory = { t.memory with queue := u.memory.queue })
        {offers : List (Message × Except QueueError Unit)} (names : offers.map Prod.fst = rs)
        (log' : u.log = (offers.map offered).reverse ++ t.log)
        (count : n = (((r, a) :: offers).filter fun o => o.2.isOk).length)
        (queue : u.memory.queue = taking t.memory.queue offers) :
        u.memory = { s.memory with queue := u.memory.queue } ∧
          ∃ offers : List (Message × Except QueueError Unit), offers.map Prod.fst = r :: rs ∧
            u.log = (offers.map offered).reverse ++ s.log ∧
            n = (offers.filter fun o => o.2.isOk).length ∧
            u.memory.queue = taking s.memory.queue offers := by
      refine ⟨by rw [rest, memory], (r, a) :: offers, ?_, ?_, count, ?_⟩
      · rw [List.map_cons, names]
      · rw [log', log, List.map_cons, List.reverse_cons, List.append_assoc]
        rfl
      · rw [queue, memory]
        exact (taking_cons _ (r, a) offers).symm
    cases a with
    | ok _ =>
      refine ih.map fun n u _ ⟨rest, offers, names, log', count, queue⟩ => ?_
      exact joined rest names log' (by rw [count]; rfl) queue
    | error err =>
      refine ih.mono fun n u _ ⟨rest, offers, names, log', count, queue⟩ => ?_
      exact joined rest names log' count queue

/-- **A sweep over a queue that refuses some events** offers them all, and tells how many were
taken. -/
theorem ensures_offered (refuse : QueueEvent → ω → Option QueueError × ω) (batch : Nat) (m : Memory)
    (w : ω) :
    (alone (Solo.screened refuse)).Ensures (Offered batch m) (sweepOnce batch) ⟨m, w, []⟩ := by
  have find : (alone (Solo.screened refuse)).Ensures
      (fun a t => a = .ok (m.messages.pending batch) ∧ t.memory = m ∧
        t.log = [⟨.pendingMessages batch, .ok (m.messages.pending batch)⟩])
      (pendingMessages batch) ⟨m, w, []⟩ := by
    refine ensures_request fun _ same => ⟨trivial, fun a u served v eq => ?_⟩
    cases same
    cases eq
    cases served
    exact ⟨rfl, rfl, rfl⟩
  refine find.bind fun found t _ hQ => ?_
  obtain ⟨rfl, memory, log⟩ := hQ t rfl
  refine (ensures_offers_screened _).map fun n u _ ⟨rest, offers, names, log', count, queue⟩ => ?_
  rw [memory] at rest queue
  rw [log] at log'
  exact ⟨rest, offers, names, log', congrArg Except.ok count, queue⟩

/-- **Queries and sweeps are exact**: after any writes, a query finds the first ones of the
unfinished records in their strict order, and finds the same in every store that has the same
records. A sweep offers their events in this order, whatever the queue refuses, and changes nothing
but the queue. -/
theorem queries_and_sweeps_exact (ws : List MessageStore.Write) (limit : Nat) :
    let s := MessageStore.written ws
    (∃ l : List Message, l.Perm (s.rows.filter fun r => !r.status.isTerminal) ∧
      l.Pairwise Message.Before ∧ (l.map Message.id).Nodup ∧
      s.pending limit = l.take limit ∧ (s.pending limit).length = min limit l.length) ∧
    (∀ t : MessageStore, (∀ r, r ∈ t.rows ↔ r ∈ s.rows) → t.pending limit = s.pending limit) ∧
    ∀ {ω : Type} (refuse : QueueEvent → ω → Option QueueError × ω) (m : Memory) (w : ω),
      let m := { m with messages := s }
      let (result, t) := (sweepOnce limit).run (Solo.screened refuse) ⟨m, w, []⟩
      Offered limit m result t := by
  intro s
  refine ⟨⟨s.listing, s.listing_perm, s.pairwise_before_listing, s.nodup_map_id_listing, rfl, ?_⟩,
    fun t same => ?_, fun refuse m w => ?_⟩
  · rw [MessageStore.pending_eq, List.length_take]
  · rw [MessageStore.pending_eq, MessageStore.listing_congr same, MessageStore.pending_eq]
  · have swept := run_of_ensures (ensures_offered refuse limit { m with messages := s } w)
    exact swept

end Delivery

end MessageGateway
