import MessageGateway.Instance
import MessageGateway.Store.Error
import MessageGateway.Store.Table

/-!
# The instance store

## Main definitions

* `InstanceStore`: the records of the instances
* `InstanceStore.get`, `InstanceStore.update`: reading and overwriting a record
* `InstanceStore.finish`: the end of a cycle, written only while the cycle is the stored one

## Main results

* `InstanceStore.exists_update_eq_ok`, `InstanceStore.find?_of_update`: what is found after a record
  was overwritten
* `InstanceStore.finish_cases`: all that the end of a cycle can do
-/

namespace MessageGateway

/-- The records of instances, by name. -/
abbrev InstanceStore := Table Instance.id

namespace InstanceStore

/-- The record of an instance. -/
def get (s : InstanceStore) (i : InstanceId) : Except StoreError Instance :=
  match s.find? i with
  | some r => .ok r
  | none => .error (.notFound i.text)

/-- The records with `r` in the place of the record of its name. -/
def update (s : InstanceStore) (r : Instance) : Except StoreError InstanceStore :=
  if s.contains r.id then .ok (s.replace r) else .error (.notFound r.id.text)

/-- The records once the cycle `c` of the instance has come to the status `status`, and the record
that tells so; there is none when another cycle is stored. A record that has the status already
stays as it is. -/
def finish (s : InstanceStore) (i : InstanceId) (c : CycleId) (status : SyncStatus)
    (now : Timestamp) : Except StoreError (Option Instance × InstanceStore) :=
  match s.find? i with
  | none => .error (.notFound i.text)
  | some r =>
    if r.cycle ≠ some c then .ok (none, s)
    else
      let finished := if r.sync = status then r else r.finishSync status now
      .ok (some finished, s.replace finished)

/-- A record that is there can always be overwritten. -/
theorem exists_update_eq_ok {s : InstanceStore} {r r₀ : Instance} (found : s.find? r.id = some r₀) :
    ∃ s', s.update r = .ok s' ∧ ∀ i, s'.find? i = if i = r.id then some r else s.find? i := by
  refine ⟨s.replace r, by rw [update, Table.contains, found]; rfl, fun i => ?_⟩
  rw [Table.find?_replace]
  by_cases hi : i = r.id
  · subst hi
    simp [found]
  · simp [hi]

theorem find?_of_update {s s' : InstanceStore} {r : Instance} (h : s.update r = .ok s')
    (i : InstanceId) : s'.find? i = if i = r.id then some r else s.find? i := by
  unfold update at h
  split at h
  · next found =>
    cases h
    rw [Table.contains] at found
    obtain ⟨r₀, found⟩ := Option.isSome_iff_exists.1 found
    rw [Table.find?_replace]
    by_cases hi : i = r.id
    · subst hi
      simp [found]
    · simp [hi]
  · cases h

/-- **The end of a cycle** is written into the stored record, or nothing is. -/
theorem finish_cases {s s' : InstanceStore} {i : InstanceId} {c : CycleId} {status : SyncStatus}
    {now : Timestamp} {x : Option Instance} (h : s.finish i c status now = .ok (x, s')) :
    (x = none ∧ s' = s) ∨ ∃ r₀ r, x = some r ∧ s.find? i = some r₀ ∧ r₀.cycle = some c ∧
      (r = r₀ ∨ r = r₀.finishSync status now) ∧
      ∀ j, s'.find? j = if j = i then some r else s.find? j := by
  unfold finish at h
  split at h
  · cases h
  · next r₀ found =>
    split at h
    · cases h
      exact .inl ⟨rfl, rfl⟩
    · next current =>
      cases h
      refine .inr ⟨r₀, _, rfl, found, Decidable.not_not.1 current, ?_, fun j => ?_⟩
      · split
        · exact .inl rfl
        · exact .inr rfl
      · have name : (if r₀.sync = status then r₀ else r₀.finishSync status now).id = i := by
          rw [← Table.key_of_find? found]
          split <;> rfl
        rw [Table.find?_replace, name]
        by_cases hj : j = i
        · subst hj
          simp [found]
        · simp [hj]

end InstanceStore

end MessageGateway
