import MessageGateway.Store.Payloads

/-!
# The order of announcements

Announcements stand in the store in the order in which they were stored, and in this order they are
listed. Nothing looks at the times at which they were made. The oldest comes first as long as they
are stored in the order of these times. One that is stored late, or whose clock was behind, comes
after younger ones.

## Main definitions

* `PayloadStore.Write`, `PayloadStore.written`: writes in turn, of which some may be refused
* `PayloadStore.left?`: what later writes leave of a payload
* `PayloadStore.accepted`: the payloads that were stored, each with the writes after it
* `PayloadStore.OldestFirst`: no payload comes after a younger one

## Main results

* `PayloadStore.rows_foldl_write`: what is stored after any writes
* `PayloadStore.listed_as_stored`: what is listed after any writes, and in which order
* `PayloadStore.listed_after_younger`: an older payload that comes last
-/

namespace MessageGateway

namespace PayloadStore

/-! ## Writes in turn -/

/-- A write of payloads. -/
inductive Write where
  /-- A new payload. -/
  | create (p : SyncPayload)
  /-- The status of a payload, and the time of its processing. -/
  | mark (id : PayloadId) (status : PayloadStatus) (processed : Option Timestamp)
  /-- The end of all payloads of an instance. -/
  | purge (i : InstanceId)

/-- The payloads after a write. When it is refused they stay as they are. -/
def write (s : PayloadStore) : Write → PayloadStore
  | .create p => (s.create p).toOption.getD s
  | .mark id status processed => (s.mark id status processed).toOption.getD s
  | .purge i => s.purge i

/-- The payloads after writes in turn. -/
def written (ws : List Write) : PayloadStore :=
  ws.foldl write .empty

/-- The payload that comes with a write, if it is stored. -/
def Write.accepted? (s : PayloadStore) : Write → Option SyncPayload
  | .create p => if s.contains p.id then none else some p
  | .mark .. | .purge _ => none

/-- What a write leaves of a payload that is stored. -/
def Write.left? : Write → SyncPayload → Option SyncPayload
  | .create _, p => some p
  | .mark id status processed, p => some (if p.id = id then { p with status, processed } else p)
  | .purge i, p => if p.owner = i then none else some p

/-- What writes in turn leave of a payload that is stored. -/
def left? : List Write → SyncPayload → Option SyncPayload
  | [], p => some p
  | w :: ws, p => (w.left? p).bind (left? ws)

/-- The payloads that are stored by writes in turn, each with the writes that come after it. -/
def accepted : PayloadStore → List Write → List (SyncPayload × List Write)
  | _, [] => []
  | s, w :: ws => (w.accepted? s).toList.map (·, ws) ++ accepted (s.write w) ws

variable {s : PayloadStore} {w : Write} {ws : List Write} {p q : SyncPayload} {i : InstanceId}

/-! ## What is stored -/

/-- **One write**: what it leaves of each payload stays in its place, and what it brings comes after
all others. -/
theorem rows_write (s : PayloadStore) (w : Write) :
    (s.write w).rows = s.rows.filterMap w.left? ++ (w.accepted? s).toList := by
  cases w with
  | create p =>
    have kept : s.rows.filterMap (Write.create p).left? = s.rows := List.filterMap_some
    rw [kept, write, create, Write.accepted?]
    cases taken : s.contains p.id with
    | true => exact (List.append_nil _).symm
    | false => exact Table.rows_insert taken
  | mark id status processed =>
    have changed : s.rows.filterMap (Write.mark id status processed).left? =
        s.rows.map fun p => if p.id = id then { p with status, processed } else p :=
      congrFun List.filterMap_eq_map s.rows
    rw [changed, write, Write.accepted?, Option.toList_none, List.append_nil]
    cases marked : s.mark id status processed with
    | ok t => exact rows_mark marked
    | error e =>
      show s.rows = _
      have absent : s.find? id = none := by
        unfold mark at marked
        split at marked
        · assumption
        · cases marked
      refine ((List.map_congr_left fun q hq => if_neg ?_).trans (List.map_id _)).symm
      rintro rfl
      rw [Table.find?_of_mem hq] at absent
      cases absent
  | purge i =>
    show s.rows.filter _ = _
    rw [Write.accepted?, Option.toList_none, List.append_nil, ← List.filterMap_eq_filter]
    congr 1
    funext q
    by_cases own : q.owner = i <;> simp [Write.left?, Option.guard, own]

/-- **What is stored after any writes**: of what was there at first and of what was stored, in this
order, that which later writes have left. -/
theorem rows_foldl_write (s : PayloadStore) (ws : List Write) :
    (ws.foldl write s).rows =
      s.rows.filterMap (left? ws) ++ (accepted s ws).filterMap fun e => left? e.2 e.1 := by
  induction ws generalizing s with
  | nil => simp [accepted, left?]
  | cons w ws ih =>
    rw [List.foldl_cons, ih, rows_write, accepted, List.filterMap_append, List.filterMap_append,
      List.filterMap_filterMap, List.append_assoc]
    congr 2
    rw [List.filterMap_map]
    rfl

/-- Later writes do not touch the name of a payload, whose it is, and the time at which it was
made. -/
theorem eq_of_left? (h : left? ws p = some q) :
    q.id = p.id ∧ q.owner = p.owner ∧ q.created = p.created := by
  induction ws generalizing p with
  | nil =>
    cases h
    exact ⟨rfl, rfl, rfl⟩
  | cons w ws ih =>
    obtain ⟨r, first, later⟩ := Option.bind_eq_some_iff.1 h
    obtain ⟨id, owner, created⟩ := ih later
    cases w with
    | create =>
      cases first
      exact ⟨id, owner, created⟩
    | mark =>
      cases first
      rw [id, owner, created]
      split <;> exact ⟨rfl, rfl, rfl⟩
    | purge =>
      simp only [Write.left?] at first
      split at first
      · cases first
      · cases first
        exact ⟨id, owner, created⟩

/-! ## What is listed -/

/-- No payload comes after one that was made later. -/
def OldestFirst (ps : List SyncPayload) : Prop :=
  ps.Pairwise fun p q => q.created.precedes p.created = false

instance : DecidablePred OldestFirst :=
  fun ps => inferInstanceAs (Decidable (ps.Pairwise _))

/-- **What is listed** after any writes: of the payloads that were stored, in the order in which
they were, those that are left, are of the instance and of the cycle if one is given, and are
pending. Each is listed once. If those of the instance were stored oldest first, they are listed
so. -/
theorem listed_as_stored (ws : List Write) (i : InstanceId) (c : Option CycleId) :
    let listed := (written ws).pending i c
    let stored := accepted .empty ws
    listed = ((stored.filterMap fun e => left? e.2 e.1).filter fun p =>
        p.owner = i ∧ p.status = .pending ∧ ∀ k, c = some k → p.cycle = some k) ∧
      (listed.map SyncPayload.id).Nodup ∧
      (OldestFirst ((stored.map Prod.fst).filter fun p => p.owner = i) → OldestFirst listed) := by
  intro listed stored
  have rows : (written ws).rows = stored.filterMap fun e => left? e.2 e.1 :=
    rows_foldl_write .empty ws
  have same : listed = ((stored.filterMap fun e => left? e.2 e.1).filter fun p =>
      p.owner = i ∧ p.status = .pending ∧ ∀ k, c = some k → p.cycle = some k) := by
    rw [← rows]
    refine List.filter_congr fun p _ => Bool.eq_iff_iff.2 ?_
    cases c <;> simp [SyncPayload.isPending, and_assoc]
  refine ⟨same, ?_, fun ordered => ?_⟩
  · exact (List.filter_sublist.map _).nodup (written ws).distinct
  · rw [OldestFirst, List.pairwise_filter, List.pairwise_map] at ordered
    rw [same, OldestFirst, List.pairwise_filter, List.pairwise_filterMap]
    refine ordered.imp fun {e f} before p left q left' hp hq => ?_
    obtain ⟨-, owner, created⟩ := eq_of_left? left
    obtain ⟨-, owner', created'⟩ := eq_of_left? left'
    simp only [decide_eq_true_eq] at before hp hq
    rw [created, created']
    exact before (owner.symm.trans hp.1) (owner'.symm.trans hq.1)

namespace Sample

/-- Two announcements of one cycle. The second one that is stored was made a second before the
first. -/
def belated : List Write :=
  let announcement (n : Nat) (ms : Int) : SyncPayload :=
    .make ⟨BitVec.ofNat 128 n⟩ ⟨"A"⟩ SyncPayload.notificationType [] (some ⟨1⟩) (.ofMillis ms)
  [.create (announcement 1 1000), .create (announcement 2 0)]

end Sample

/-- **The oldest need not come first**: the belated announcement of the sample is listed after the
younger one, among all of the instance and among those of its cycle. -/
theorem listed_after_younger :
    (¬∀ (ws : List Write) (i : InstanceId), OldestFirst ((written ws).pending i none)) ∧
      ¬∀ (ws : List Write) (i : InstanceId) (k : CycleId),
        OldestFirst ((written ws).pending i (some k)) :=
  ⟨fun ordered => absurd (ordered Sample.belated ⟨"A"⟩) (by decide),
    fun ordered => absurd (ordered Sample.belated ⟨"A"⟩ ⟨1⟩) (by decide)⟩

end PayloadStore

end MessageGateway
