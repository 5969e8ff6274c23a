import MessageGateway.Proofs.Delivery.History

/-!
# What a delivery relies on

A party that works on a message relies on the others keeping to some rules, and keeps to them
itself: a record is overwritten only by one of the same message, and a party transmits once, and
only a message on which it began before the delivery of that message was over.

## Main definitions

* `Delivery.Begun`: a party began on a message before its delivery was over
* `Delivery.Sound`: what holds of every scene
* `Delivery.May`: the calls that a party may make
* `Delivery.setting`: what surrounds a party

## Main results

* `Delivery.Sound.next`: a call that a party may make keeps a scene sound
* `Delivery.coherent`: the settings of the parties fit together
-/

namespace MessageGateway

namespace Delivery

variable {old : MessageStore} {x : MessageId} {p q : Party} {log earlier : List Entry}
  {s t : Scene} {c : Call} {m : Memory}

/-- The party began on the message before its delivery was over: it has looked the record up, and
at every moment at which the delivery was over it had already done so. -/
structure Begun (old : MessageStore) (x : MessageId) (p : Party) (log : List Entry) : Prop where
  looked : Looked x p log
  before : ∀ earlier, earlier <:+ log → Over old x earlier → Looked x p earlier

theorem Begun.mono (h : Begun old x p earlier) (hl : earlier <:+ log) : Begun old x p log where
  looked := h.looked.mono hl
  before moment hm ended := by
    obtain h' | h' := List.suffix_or_suffix_of_suffix hm hl
    · exact h.before moment h' ended
    · exact h.looked.mono h'

/-- What holds of every scene of a run that began with the records `old`. -/
structure Sound (old : MessageStore) (s : Scene) : Prop where
  /-- The log tells what is stored. -/
  stored : ∀ x, (store s).find? x = row old x s.log
  /-- Every record that was stored is there in a later form. -/
  forward : ∀ {x earlier r}, earlier <:+ s.log → row old x earlier = some r →
    ∃ r', row old x s.log = some r' ∧ r.Continues r'
  /-- Whoever transmitted a message began on it before its delivery was over. -/
  begun : ∀ {x p}, p ∈ transmissions x s.log → Begun old x p s.log
  /-- Nobody has transmitted a message twice. -/
  once : ∀ x, (transmissions x s.log).Nodup
  /-- Whatever was transmitted is the message of a record. -/
  named : ∀ {e before}, e :: before <:+ s.log → e.isTransmission = true →
    ∃ x, subject? e.party before = some x

theorem sound_start (m : Memory) : Sound m.messages ⟨m, []⟩ where
  stored _ := rfl
  forward {x earlier r} hl hr := by
    rw [List.suffix_nil.1 hl] at hr
    exact ⟨r, hr, .refl r⟩
  begun h := by cases h
  once _ := List.nodup_nil
  named hl := by cases List.suffix_nil.1 hl

theorem Sound.over_mono (h : Sound old s) (hl : earlier <:+ s.log) (ended : Over old x earlier) :
    Over old x s.log := by
  obtain ⟨r, hr, terminal⟩ := ended
  obtain ⟨r', hr', continues⟩ := h.forward hl hr
  exact ⟨r', hr', by rw [continues.advances.eq_of_isTerminal terminal, terminal]⟩

/-- Who looks up a record of which the delivery is not over begins before it is. -/
theorem Sound.begun_of_lookup (h : Sound old s) {a : c.Answer}
    (lookup : Entry.lookedUp? ⟨p, c, a⟩ = some x) (notOver : ¬Over old x s.log) :
    Begun old x p (⟨p, c, a⟩ :: s.log) where
  looked := ⟨_, List.mem_cons_self, rfl, lookup⟩
  before earlier hl ended := by
    obtain rfl | hl := List.suffix_cons_iff.1 hl
    · exact ⟨_, List.mem_cons_self, rfl, lookup⟩
    · exact absurd (h.over_mono hl ended) notOver

/-! ## Steps -/

/-- The calls that a party may make. -/
def May (old : MessageStore) (p : Party) : Call → Scene → Prop
  | .updateMessage m, s => ∀ r, row old m.id s.log = some r → r.Same m
  | .transmit .., s => (∀ x, p ∉ transmissions x s.log) ∧
      ∃ x, subject? p s.log = some x ∧ Begun old x p s.log
  | _, _ => True

/-- What an allowed transmission needs, told of its entry in the log. -/
theorem May.of_isTransmission (may : May old p c s) {a : c.Answer}
    (h : Entry.isTransmission ⟨p, c, a⟩ = true) : (∀ x, p ∉ transmissions x s.log) ∧
      ∃ x, subject? p s.log = some x ∧ Begun old x p s.log := by
  unfold Entry.isTransmission at h
  split at h
  · next eq =>
    cases eq
    exact may
  · cases h

/-- After a call that a party may make the log tells what is stored, and no record has gone
back. -/
theorem Sound.row_next (h : Sound old s) (may : May old p c s) {a : c.Answer}
    (served : service s.memory c a m) :
    (∀ x, m.messages.find? x = row old x (⟨p, c, a⟩ :: s.log)) ∧
      ∀ x r, row old x s.log = some r →
        ∃ r', row old x (⟨p, c, a⟩ :: s.log) = some r' ∧ r.Continues r' := by
  obtain ⟨none, eq⟩ | ⟨w, wrote, found, overwrites⟩ := service_cases served p
  · simp only [row_cons_of_none none, eq]
    exact ⟨h.stored, fun x r hr => ⟨r, hr, .refl r⟩⟩
  · simp only [row_cons_of_some wrote]
    refine ⟨fun x => by rw [found x, h.stored x], fun x r hr => ?_⟩
    by_cases hx : x = w.id
    · subst hx
      obtain ⟨rfl, allowed⟩ := overwrites r (by rw [h.stored, hr])
      exact ⟨w, if_pos rfl, may r hr, MessageStatus.advances_of_allows allowed⟩
    · exact ⟨r, by rw [if_neg hx, hr], .refl r⟩

/-- **A call that a party may make keeps a scene sound.** -/
theorem Sound.next (h : Sound old s) (may : May old p c s) {a : c.Answer}
    (served : service s.memory c a m) : Sound old (s.next p c a m) := by
  obtain ⟨stored, forward⟩ := h.row_next may served
  have grows : s.log <:+ (s.next p c a m).log := List.suffix_cons _ _
  constructor
  case stored => exact stored
  case forward =>
    intro x moment r hl hr
    obtain rfl | hl := List.suffix_cons_iff.1 hl
    · exact ⟨r, hr, .refl r⟩
    · obtain ⟨r', hr', continues⟩ := h.forward hl hr
      obtain ⟨r'', hr'', continues'⟩ := forward x r' hr'
      exact ⟨r'', hr'', continues.trans continues'⟩
  case begun =>
    intro x q hq
    obtain ⟨transmits, subject, rfl⟩ | hq := mem_transmissions_cons.1 hq
    · obtain ⟨-, y, subject', begun⟩ := may.of_isTransmission transmits
      rw [subject] at subject'
      cases subject'
      exact begun.mono grows
    · exact (h.begun hq).mono grows
  case once =>
    intro x
    show (transmissions x (⟨p, c, a⟩ :: s.log)).Nodup
    rw [transmissions]
    split
    · next sent =>
      exact List.nodup_cons.2 ⟨(may.of_isTransmission sent.1).1 x, h.once x⟩
    · exact h.once x
  case named =>
    intro e before hl transmits
    obtain eq | hl := List.suffix_cons_iff.1 hl
    · cases eq
      obtain ⟨-, x, subject, -⟩ := may.of_isTransmission transmits
      exact ⟨x, subject⟩
    · exact h.named hl transmits

/-! ## The setting of a party -/

/-- The others have gone from one scene to another. -/
structure Others (old : MessageStore) (p : Party) (s t : Scene) : Prop where
  sound : Sound old t
  grows : s.log <:+ t.log
  /-- Nothing of what was stored in between is by the party itself. -/
  writes : writes p t.log = writes p s.log
  /-- Nothing was transmitted in between by the party itself. -/
  transmissions : ∀ {x}, p ∈ transmissions x t.log → p ∈ Delivery.transmissions x s.log

/-- What surrounds a party. -/
def setting (old : MessageStore) (p : Party) : Setting Scene where
  Serves c s a t := ∃ m, service s.memory c a m ∧ t = s.next p c a m
  Rely := Others old p
  Allowed := May old p
  rely_self h := ⟨h.sound, List.suffix_rfl, rfl, id⟩
  rely_trans h h' := ⟨h'.sound, h.grows.trans h'.grows, h'.writes.trans h.writes,
    fun hp => h.transmissions (h'.transmissions hp)⟩

/-- **The settings of the parties fit together.** -/
theorem coherent (old : MessageStore) : System.Coherent service (setting old) where
  serves served := ⟨_, served, rfl⟩
  own self may served := ⟨self.sound.next may served, List.suffix_rfl, rfl, id⟩
  others self may served ne :=
    ⟨self.sound.next may served, List.suffix_cons _ _, writes_cons_of_ne ne.symm,
      mem_transmissions_of_cons_of_ne ne.symm⟩

/-- A call that is neither to store a record nor to transmit a message is nothing to others. -/
theorem silent (h : c.isDeed = false) : (setting old p).Silent c := by
  intro s self
  have may : May old p c s := by
    cases c <;> trivial
  refine ⟨may, ?_⟩
  rintro a t ⟨m, served, rfl⟩
  have none : Entry.written? ⟨p, c, a⟩ = none := Entry.written?_of_not_isDeed h
  have not : Entry.isTransmission ⟨p, c, a⟩ = false :=
    Entry.isTransmission_of_call (Call.isTransmission_of_not_isDeed h)
  exact ⟨self.sound.next may served, List.suffix_cons _ _, writes_cons_of_none none,
    mem_transmissions_of_cons_of_not_isTransmission not⟩

end Delivery

end MessageGateway
