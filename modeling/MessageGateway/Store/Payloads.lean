import MessageGateway.HistorySync.Payload
import MessageGateway.Store.Error
import MessageGateway.Store.Table

/-!
# The payload store

Payloads stand in the order in which they were stored.

## Main definitions

* `PayloadStore`: the stored announcements
* `PayloadStore.create`, `PayloadStore.mark`, `PayloadStore.purge`: the writes
* `PayloadStore.pending`: the announcements of an instance that were not processed

## Main results

* `PayloadStore.rows_mark`: a payload that is marked keeps its place, and all others stay as they are
-/

namespace MessageGateway

/-- The stored announcements, by name. -/
abbrev PayloadStore := Table SyncPayload.id

namespace PayloadStore

/-- The payloads with a new one. -/
def create (s : PayloadStore) (p : SyncPayload) : Except StoreError PayloadStore :=
  if s.contains p.id then
    .error (.conflict ("history sync payload " ++ p.id.display ++ " already exists"))
  else .ok (s.insert p)

/-- The payloads of an instance that were not processed; if a cycle is given, only those that came
during it. -/
def pending (s : PayloadStore) (i : InstanceId) (c : Option CycleId) : List SyncPayload :=
  s.rows.filter fun p =>
    p.owner == i && p.isPending && (c.isNone || p.cycle == c)

/-- The payloads with the status of one of them, and the time of its processing, overwritten. -/
def mark (s : PayloadStore) (id : PayloadId) (status : PayloadStatus)
    (processed : Option Timestamp) : Except StoreError PayloadStore :=
  match s.find? id with
  | none => .error (.notFound id.display)
  | some p => .ok (s.replace { p with status, processed })

/-- The payloads without those of an instance. -/
def purge (s : PayloadStore) (i : InstanceId) : PayloadStore :=
  s.filter fun p => p.owner != i

/-- A payload that is there can be marked. -/
theorem exists_mark_eq_ok {s : PayloadStore} {p : SyncPayload} (h : p ∈ s.rows)
    (status : PayloadStatus) (processed : Option Timestamp) :
    ∃ s', s.mark p.id status processed = .ok s' := by
  unfold mark
  rw [Table.find?_of_mem h]
  exact ⟨_, rfl⟩

theorem rows_mark {s s' : PayloadStore} {id : PayloadId} {status : PayloadStatus}
    {processed : Option Timestamp} (h : s.mark id status processed = .ok s') :
    s'.rows = s.rows.map fun q => if q.id = id then { q with status, processed } else q := by
  unfold mark at h
  split at h
  · cases h
  · next p found =>
    cases h
    have named : p.id = id := Table.key_of_find? found
    refine List.map_congr_left fun q hq => ?_
    subst named
    dsimp only
    split
    · next same =>
      have there := Table.find?_of_mem hq
      rw [same, found] at there
      cases there
      rfl
    · rfl

end PayloadStore

end MessageGateway
