import MessageGateway.Message
import MessageGateway.Store.Error
import MessageGateway.Store.Table

/-!
# The message store

The store of message records is the truth about what is still to be sent. It refuses a second
record of one name, and every write by which a delivery would go back.

## Main definitions

* `MessageStore`: the records
* `MessageStore.create`, `MessageStore.update`: the writes, and when they are refused
* `MessageStore.pending`: the records whose delivery is not over, oldest first
* `MessageStore.ofInstance`: the records of an instance, oldest first

## Main results

* `find?_of_create`, `find?_of_update`: what was found before a write that was taken, and what is
  found after it
-/

namespace MessageGateway

/-- The records of messages, by name. -/
abbrev MessageStore := Table Message.id

namespace MessageStore

/-- The records with a new one. -/
def create (s : MessageStore) (m : Message) : Except StoreError MessageStore :=
  if s.contains m.id then .error (.conflict ("message " ++ m.id.display ++ " already exists"))
  else .ok (s.insert m)

/-- The records with `m` in the place of the record of its name, if its status allows that. -/
def update (s : MessageStore) (m : Message) : Except StoreError MessageStore :=
  match s.find? m.id with
  | none => .error (.notFound m.id.display)
  | some current =>
    if current.status.allows m.status then .ok (s.replace m)
    else .error (.conflict (TransitionError.message ⟨m.id, current.status, m.status⟩))

/-- The first `limit` of the records whose delivery is not over, oldest first. -/
def pending (s : MessageStore) (limit : Nat) : List Message :=
  ((s.rows.filter fun m => !m.status.isTerminal).mergeSort Message.listedBefore).take limit

/-- The records of an instance, oldest first. -/
def ofInstance (s : MessageStore) (i : InstanceId) : List Message :=
  (s.rows.filter fun m => m.owner == i).mergeSort Message.listedBefore

/-! ## What is found after a write -/

theorem find?_of_create {s s' : MessageStore} {m : Message} (h : s.create m = .ok s') :
    s.find? m.id = none ∧ ∀ x, s'.find? x = if x = m.id then some m else s.find? x := by
  unfold create at h
  split at h
  · cases h
  · next absent =>
    cases h
    have none : s.find? m.id = none := by simpa [Table.contains] using absent
    refine ⟨none, fun x => ?_⟩
    rw [Table.find?_insert]
    by_cases hx : x = m.id
    · subst hx
      simp [none]
    · simp [hx, Ne.symm hx]

theorem find?_of_update {s s' : MessageStore} {m : Message} (h : s.update m = .ok s') :
    (∃ r, s.find? m.id = some r ∧ r.status.allows m.status = true) ∧
      ∀ x, s'.find? x = if x = m.id then some m else s.find? x := by
  unfold update at h
  split at h
  · cases h
  · next r found =>
    split at h
    · next allowed =>
      cases h
      refine ⟨⟨r, found, allowed⟩, fun x => ?_⟩
      rw [Table.find?_replace]
      by_cases hx : x = m.id
      · subst hx
        simp [found]
      · simp [hx]
    · cases h

/-- A record that is there takes every write that its status allows. -/
theorem exists_update_eq_ok {s : MessageStore} {m r : Message} (found : s.find? m.id = some r)
    (allowed : r.status.allows m.status = true) : ∃ s', s.update m = .ok s' := by
  simp [update, found, allowed]

end MessageStore

end MessageGateway
