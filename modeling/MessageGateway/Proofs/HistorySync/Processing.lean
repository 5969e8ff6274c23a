import MessageGateway.Proofs.Dispatch.Course
import MessageGateway.Proofs.HistorySync.Alone

/-!
# Processing alone

Announcements are processed one after the other, in the order in which they stand. Those that the
processor accepts are marked as done, with the time that the clock shows right after. Those that it
rejects stay as they are, and the others are processed nevertheless.

## Main definitions

* `HistorySync.Verdict`: what came of an announcement
* `HistorySync.settled`: an announcement when the verdicts have been carried out
* `HistorySync.Worked`: the announcements were processed, and nothing else was done

## Main results

* `HistorySync.ensures_processAll`: announcements are processed in turn
* `HistorySync.ensures_processPending`: those that the current cycle has to process
* `HistorySync.Worked.settled_of_accepted`, `HistorySync.Worked.settled_of_other`: what becomes of
  each announcement
-/

namespace MessageGateway

open Program Setting

namespace HistorySync

/-- What came of an announcement: the time at which it was accepted, or why it was rejected. -/
structure Verdict where
  /-- The announcement. -/
  payload : SyncPayload
  /-- What came of it. -/
  result : Except SyncError Timestamp

/-- The calls by which an announcement is processed, in their order. -/
def Verdict.calls (v : Verdict) : List Exchange :=
  match v.result with
  | .ok time =>
    [⟨.processPayload v.payload, .ok ()⟩, ⟨.now, time⟩,
      ⟨.markPayload v.payload.id .done (some time), .ok ()⟩]
  | .error e => [⟨.processPayload v.payload, .error e⟩]

/-- What a verdict makes of an announcement. -/
def Verdict.apply (v : Verdict) (q : SyncPayload) : SyncPayload :=
  match v.result with
  | .ok time => { q with status := .done, processed := some time }
  | .error _ => q

/-- An announcement when the verdict on it, if there is one, has been carried out. -/
def settled (vs : List Verdict) (q : SyncPayload) : SyncPayload :=
  match vs.find? fun v => decide (v.payload.id = q.id) with
  | some v => v.apply q
  | none => q

variable {vs : List Verdict} {v : Verdict} {p q : SyncPayload}

theorem settled_cons_self (h : v.payload.id = q.id) : settled (v :: vs) q = v.apply q := by
  simp [settled, h]

theorem settled_cons_of_ne (h : v.payload.id ≠ q.id) : settled (v :: vs) q = settled vs q := by
  simp [settled, h]

theorem settled_of_not_mem (h : q.id ∉ vs.map fun v => v.payload.id) : settled vs q = q := by
  induction vs with
  | nil => rfl
  | cons v vs ih =>
    rw [List.map_cons, List.mem_cons, not_or] at h
    rw [settled_cons_of_ne (Ne.symm h.1), ih h.2]

/-- There is one verdict on each announcement. -/
theorem settled_of_mem (distinct : (vs.map fun v => v.payload.id).Nodup) (h : v ∈ vs) :
    settled vs v.payload = v.apply v.payload := by
  induction vs with
  | nil => cases h
  | cons w vs ih =>
    rw [List.map_cons, List.nodup_cons] at distinct
    rcases List.mem_cons.1 h with rfl | h
    · exact settled_cons_self rfl
    · have other : w.payload.id ≠ v.payload.id := fun same =>
        distinct.1 (same ▸ List.mem_map_of_mem h)
      rw [settled_cons_of_ne other, ih distinct.2 h]

variable {ω : Type} {outside : (c : Call) → ω → c.Answer × ω} {s t u : Solo ω}
  {accept : SyncPayload → Except SyncError Unit} {ps : List SyncPayload} {i : InstanceId}
  {r : Instance} {e : SyncError} {time : Timestamp}

/-- The announcements `ps` were processed with the verdicts `vs`, and nothing else was done. -/
structure Worked (accept : SyncPayload → Except SyncError Unit) (ps : List SyncPayload)
    (vs : List Verdict) (s t : Solo ω) : Prop where
  /-- There is one verdict on each announcement, in their order. -/
  each : vs.map Verdict.payload = ps
  /-- The verdicts are those of the processor. -/
  just : ∀ v ∈ vs, accept v.payload = v.result.map fun _ => ()
  /-- The calls are those of the verdicts, and the times were told by the clock. -/
  log : t.log = (vs.flatMap Verdict.calls).reverse ++ s.log
  /-- The verdicts were carried out, and everything has kept its place. -/
  rows : t.memory.payloads.rows = s.memory.payloads.rows.map (settled vs)
  /-- Nothing but announcements was touched. -/
  rest : t.memory = { s.memory with payloads := t.memory.payloads }

/-! ## One announcement after the other -/

theorem Worked.ids (worked : Worked accept ps vs s t) :
    (vs.map fun v => v.payload.id) = ps.map SyncPayload.id := by
  rw [← worked.each, List.map_map]
  rfl

theorem worked_nil (s : Solo ω) : Worked accept [] [] s s where
  each := rfl
  just := List.forall_mem_nil _
  log := rfl
  rows := (List.map_id _).symm
  rest := rfl

/-- An announcement was rejected, and the others were processed. -/
theorem Worked.rejected (worked : Worked accept ps vs t u) (reject : accept p = .error e)
    (memory : t.memory = s.memory) (log : t.log = ⟨.processPayload p, .error e⟩ :: s.log)
    (new : p.id ∉ ps.map SyncPayload.id) : Worked accept (p :: ps) (⟨p, .error e⟩ :: vs) s u where
  each := by rw [List.map_cons, worked.each]
  just := List.forall_mem_cons.2 ⟨reject, worked.just⟩
  log := by simp [worked.log, log, Verdict.calls]
  rows := by
    rw [worked.rows, memory]
    refine List.map_congr_left fun q _ => ?_
    by_cases same : p.id = q.id
    · rw [settled_cons_self same, settled_of_not_mem (by rw [worked.ids, ← same]; exact new)]
      rfl
    · rw [settled_cons_of_ne same]
  rest := by rw [← memory, worked.rest]

/-- An announcement was accepted and marked, and the others were processed. -/
theorem Worked.accepted (worked : Worked accept ps vs t u) (approve : accept p = .ok ())
    (log : t.log = ⟨.markPayload p.id .done (some time), .ok ()⟩ :: ⟨.now, time⟩ ::
      ⟨.processPayload p, .ok ()⟩ :: s.log)
    (rows : t.memory.payloads.rows = marked p.id time s.memory.payloads.rows)
    (rest : t.memory = { s.memory with payloads := t.memory.payloads })
    (new : p.id ∉ ps.map SyncPayload.id) : Worked accept (p :: ps) (⟨p, .ok time⟩ :: vs) s u where
  each := by rw [List.map_cons, worked.each]
  just := List.forall_mem_cons.2 ⟨approve, worked.just⟩
  log := by simp [worked.log, log, Verdict.calls]
  rows := by
    rw [worked.rows, rows, marked, List.map_map]
    refine List.map_congr_left fun q _ => ?_
    rw [Function.comp_apply]
    by_cases same : p.id = q.id
    · rw [settled_cons_self same, if_pos same.symm,
        settled_of_not_mem (by rw [worked.ids]; exact same ▸ new)]
      rfl
    · rw [settled_cons_of_ne same, if_neg (Ne.symm same)]
  rest := by
    rw [worked.rest, rest]

/-- A processor that is a function of the announcement says what this function says. -/
theorem ensures_processPayload
    (accepts : ∀ p w, (outside (.processPayload p) w).1 = accept p) (p : SyncPayload) :
    (Solo.setting outside).Ensures (fun a t => a = accept p ∧ t.memory = s.memory ∧
      t.log = ⟨.processPayload p, accept p⟩ :: s.log) (processPayload p) s := by
  refine Dispatch.ensures_ask fun a t served => ?_
  have told : a = accept p := (congrArg Prod.fst served).symm.trans (accepts p s.world)
  obtain ⟨w, rfl⟩ := Solo.answer_of_none rfl served
  subst told
  exact ⟨rfl, rfl, rfl⟩

/-- An announcement that is there is marked. -/
theorem ensures_markPayload (there : p.id ∈ s.memory.payloads.rows.map SyncPayload.id)
    (time : Timestamp) : (Solo.setting outside).Ensures
      (fun a t => a = .ok () ∧ t.log = ⟨.markPayload p.id .done (some time), .ok ()⟩ :: s.log ∧
        t.memory.payloads.rows = marked p.id time s.memory.payloads.rows ∧
        t.memory = { s.memory with payloads := t.memory.payloads })
      (markPayload p.id .done (some time)) s := by
  obtain ⟨q, hq, named⟩ := List.mem_map.1 there
  obtain ⟨payloads, mark⟩ := PayloadStore.exists_mark_eq_ok hq .done (some time)
  rw [named] at mark
  have answered : s.memory.answer? (.markPayload p.id .done (some time)) =
      some (.ok (), { s.memory with payloads }) := by
    rw [Memory.answer?, mark]
    rfl
  refine Dispatch.ensures_ask fun a t served => ?_
  obtain ⟨rfl, rfl⟩ := Solo.answer_of_some answered served
  exact ⟨rfl, rfl, PayloadStore.rows_mark mark, rfl⟩

theorem ids_marked (id : PayloadId) (time : Timestamp) (rows : List SyncPayload) :
    (marked id time rows).map SyncPayload.id = rows.map SyncPayload.id := by
  rw [marked, List.map_map]
  refine List.map_congr_left fun q _ => ?_
  rw [Function.comp_apply]
  split <;> rfl

/-- **Processing** goes on to the last announcement, whatever is rejected. -/
theorem ensures_processAll (accepts : ∀ p w, (outside (.processPayload p) w).1 = accept p)
    (distinct : (ps.map SyncPayload.id).Nodup)
    (there : ∀ p ∈ ps, p.id ∈ s.memory.payloads.rows.map SyncPayload.id) :
    (Solo.setting outside).Ensures (fun n t => n = .ok (ps.countP fun p => (accept p).isOk) ∧
      ∃ vs, Worked accept ps vs s t) (processAll ps).run s := by
  induction ps generalizing s with
  | nil =>
    refine ensures_pure fun t same => ?_
    cases same
    exact ⟨rfl, [], worked_nil s⟩
  | cons p ps ih =>
    rw [List.map_cons, List.nodup_cons] at distinct
    rw [List.forall_mem_cons] at there
    refine (ensures_processPayload accepts p).bindLift fun a t _ hQ => ?_
    obtain ⟨rfl, memory, log⟩ := hQ t rfl
    cases said : accept p with
    | error e =>
      rw [said] at log
      refine (ih distinct.2 (memory ▸ there.2)).mono fun n u _ processed => ?_
      obtain ⟨count, vs, worked⟩ := processed
      exact ⟨by simp [count, said, Except.isOk, Except.toBool],
        _, worked.rejected said memory log distinct.1⟩
    | ok done =>
      rw [said] at log
      refine (Solo.ensures_outside fun _ => rfl).bindLift fun (time : Timestamp) t₁ _ hQ => ?_
      obtain ⟨memory₁, log₁⟩ := hQ t₁ rfl
      rw [memory] at memory₁
      refine (ensures_markPayload (memory₁ ▸ there.1) time).bindOrFail
        (fun _ t₂ _ hQ => ?_) fun _ _ _ hQ => by cases hQ.1
      obtain ⟨-, log₂, rows, rest⟩ := hQ t₂ rfl
      rw [memory₁] at rows rest
      have there' : ∀ p ∈ ps, p.id ∈ t₂.memory.payloads.rows.map SyncPayload.id := by
        rw [rows, ids_marked]
        exact there.2
      refine (ih distinct.2 there').bindExcept (fun n u _ hQ => ?_) fun _ _ _ hQ => by cases hQ.1
      obtain ⟨count, vs, worked⟩ := hQ u rfl
      refine ensures_pure fun v same => ?_
      cases same
      cases count
      exact ⟨by simp [said, Except.isOk, Except.toBool],
        _, worked.accepted said (by rw [log₂, log₁, log]) rows rest distinct.1⟩

/-! ## What is pending -/

/-- What an instance has to process: what is its own, is pending, and came during its cycle if it
has one. -/
theorem mem_pending {store : PayloadStore} {k : Option CycleId} :
    p ∈ store.pending i k ↔ p ∈ store.rows ∧ p.owner = i ∧ p.status = .pending ∧
      ∀ c, k = some c → p.cycle = some c := by
  cases k <;> simp [PayloadStore.pending, SyncPayload.isPending, and_assoc]

/-- **Processing what is pending**, by an instance with the record `r`. -/
theorem ensures_processPending (accepts : ∀ p w, (outside (.processPayload p) w).1 = accept p)
    (found : s.memory.instances.find? i = some r) :
    let ps := s.memory.payloads.pending i r.cycle
    (Solo.setting outside).Ensures (fun n t => n = .ok (ps.countP fun p => (accept p).isOk) ∧
      ∃ vs, Worked accept ps vs { s with log := ⟨.pendingPayloads i r.cycle, .ok ps⟩ ::
        ⟨.findInstance i, .ok r⟩ :: s.log } t) (processPending i) s := by
  intro ps
  have find : s.memory.answer? (.findInstance i) = some (.ok r, s.memory) := by
    simp only [Memory.answer?, InstanceStore.get, found]
  refine (Solo.ensures_read find).bindOrFail (fun a t _ hQ => ?_) fun _ _ _ hQ => by cases hQ.1
  obtain ⟨same, memory, log⟩ := hQ t rfl
  cases same
  have look : t.memory.answer? (.pendingPayloads i r.cycle) = some (.ok ps, t.memory) := by
    rw [memory]
    rfl
  refine (Solo.ensures_read look).bindOrFail (fun a t₁ _ hQ => ?_) fun _ _ _ hQ => by cases hQ.1
  obtain ⟨same, memory₁, log₁⟩ := hQ t₁ rfl
  cases same
  rw [memory] at memory₁
  have distinct : (ps.map SyncPayload.id).Nodup :=
    (List.filter_sublist.map _).nodup s.memory.payloads.distinct
  have there : ∀ p ∈ ps, p.id ∈ t₁.memory.payloads.rows.map SyncPayload.id := fun p hp =>
    memory₁ ▸ List.mem_map_of_mem (mem_pending.1 hp).1
  refine (ensures_processAll accepts distinct there).mono fun n u _ processed => ?_
  obtain ⟨count, vs, worked⟩ := processed
  refine ⟨count, vs, worked.each, worked.just, ?_, ?_, ?_⟩
  · rw [worked.log, log₁, log]
  · rw [worked.rows, memory₁]
  · rw [worked.rest, memory₁]

/-! ## What becomes of each announcement -/

/-- What is accepted is done, at the time of its verdict. -/
theorem Worked.settled_of_accepted (worked : Worked accept ps vs s t)
    (distinct : (ps.map SyncPayload.id).Nodup) (hp : p ∈ ps) (approve : accept p = .ok ()) :
    ∃ time, ⟨p, .ok time⟩ ∈ vs ∧
      settled vs p = { p with status := .done, processed := some time } := by
  rw [← worked.each] at hp
  obtain ⟨v, hv, rfl⟩ := List.mem_map.1 hp
  have said := worked.just v hv
  obtain ⟨p, result⟩ := v
  cases result with
  | error e =>
    rw [approve] at said
    cases said
  | ok time => exact ⟨time, hv, settled_of_mem (worked.ids ▸ distinct) hv⟩

/-- Everything else stays as it is. -/
theorem Worked.settled_of_other (worked : Worked accept ps vs s t)
    (distinct : (ps.map SyncPayload.id).Nodup) (stored : ps ⊆ s.memory.payloads.rows)
    (hq : q ∈ s.memory.payloads.rows) (other : q ∈ ps → accept q ≠ .ok ()) :
    settled vs q = q := by
  by_cases named : q.id ∈ vs.map fun v => v.payload.id
  · obtain ⟨v, hv, same⟩ := List.mem_map.1 named
    have hp : v.payload ∈ ps := worked.each ▸ List.mem_map_of_mem hv
    have there := Table.find?_of_mem (stored hp)
    rw [same, Table.find?_of_mem hq] at there
    cases there
    rw [settled_of_mem (worked.ids ▸ distinct) hv]
    have said := worked.just v hv
    unfold Verdict.apply
    split
    · next accepted =>
      rw [accepted] at said
      exact absurd said (other hp)
    · rfl
  · exact settled_of_not_mem named

end HistorySync

end MessageGateway
