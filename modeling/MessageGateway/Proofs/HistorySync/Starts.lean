import MessageGateway.Proofs.HistorySync.Handles
import MessageGateway.Proofs.HistorySync.Records

/-!
# Starts at the same time

A start writes its cycle into the record of the instance, and then mounts its handle in the
registry. These are two calls, and of several starts one may be the last to write and another one
the last to mount. So when all starts have returned there is one handle that has not been
cancelled, but it need not be that of the stored cycle.

## Main definitions

* `HistorySync.Settled`: what is stored and mounted when all starts have returned

## Main results

* `HistorySync.Run.token_not_fired`: the handle that was mounted last has not been cancelled
* `HistorySync.Run.fired_of_displaced`: all other handles have been cancelled
* `HistorySync.starts_settle`: the outcome of any number of starts
-/

namespace MessageGateway

open Program Setting

namespace HistorySync

variable {c : GatewayConfig} {ops : Party → Operation} {m : Memory} {σ : System Outcome}
  {i : InstanceId} {p q : Party} {e : Entry} {log before : List Entry} {h : CycleHandle}
  {x : Option CycleHandle} {r : Instance} {k : CycleId} {t u : Trace}

/-! ## The calls of starts -/

/-- The operations are starts. -/
def AllStarts (ops : Party → Operation) : Prop :=
  ∀ p, ∃ i, ops p = .start i

theorem ensures_started (c : GatewayConfig) (i : InstanceId) :
    (traced Exchange.IsNamed (MayStart i)).Ensures
      (fun o t => ∃ res, o = .started res ∧ Started i res t) ((Operation.start i).program c) [] :=
  (ensures_start i).map fun res _ _ started => ⟨res, rfl, started⟩

theorem Run.lawful (run : System.Run service (begin c ops m) σ) (start : ops p = .start i) :
    Lawful (MayStart i) (System.trace p σ.log) := by
  have started := ensures_started c i
  rw [← start] at started
  exact (run.made p).lawful started (Run.isNamed run)

/-- A start that is done has left everything as it should. -/
theorem Run.started (run : System.Run service (begin c ops m) σ) (start : ops p = .start i)
    {o : Outcome} (done : σ.parties p = .done o) :
    ∃ res, o = .started res ∧ Started i res (System.trace p σ.log) := by
  have started := ensures_started c i
  rw [← start] at started
  have made := run.made p
  rw [done] at made
  exact made.result started (Run.isNamed run)

/-- A start draws the name of its cycle once. -/
theorem drawn_of_suffix (lawful : Lawful (MayStart i) t) (hu : u <:+ t)
    (drawn : u.findSome? Exchange.drawn? = some k) : t.findSome? Exchange.drawn? = some k := by
  induction t with
  | nil =>
    rw [List.suffix_nil.1 hu] at drawn
    cases drawn
  | cons x t ih =>
    rcases List.suffix_cons_iff.1 hu with rfl | hu
    · exact drawn
    · have earlier := ih lawful.2 hu
      obtain ⟨call, a⟩ := x
      rw [List.findSome?_cons]
      cases call with
      | newCycleId =>
        obtain rfl : t = [] := lawful.1
        cases earlier
      | _ => exact earlier

theorem Run.may (run : System.Run service (begin c ops m) σ) (starts : AllStarts ops)
    (he : e :: before <:+ σ.log) :
    ∃ i, ops e.party = .start i ∧ MayStart i e.call (System.trace e.party before) := by
  obtain ⟨i, start⟩ := starts e.party
  exact ⟨i, start, System.may_of_lawful (Run.lawful run start) he⟩

/-- Handles change only by being mounted, by a start that has mounted none before and whose cycle
is stored. -/
theorem Run.mounts (run : System.Run service (begin c ops m) σ) (starts : AllStarts ops)
    (he : e :: before <:+ σ.log) (mounted : e.exchange.mounted? i = some x) :
    ∃ h, x = some h ∧ e.call = .mountHandle i h ∧ ops e.party = .start i ∧
      MayStart i (.mountHandle i h) (System.trace e.party before) := by
  obtain ⟨j, start, may⟩ := Run.may run starts he
  obtain ⟨q, call, a⟩ := e
  unfold Exchange.mounted? Entry.exchange at mounted
  split at mounted
  · next eq =>
    cases eq
    split at mounted
    · next named =>
      cases mounted
      subst named
      obtain rfl := may.1
      exact ⟨_, rfl, rfl, start, may⟩
    · cases mounted
  · next eq =>
    cases eq
    exact may.elim
  · next eq =>
    cases eq
    exact may.elim
  · cases mounted

/-- A start overwrites the record of its own instance, with the cycle that it has drawn. -/
theorem Run.stores (run : System.Run service (begin c ops m) σ) (starts : AllStarts ops)
    (he : e :: before <:+ σ.log) (stored : e.exchange.stored? i = some r) :
    ops e.party = .start i ∧
      ∃ k, r.cycle = some k ∧
        (System.trace e.party before).findSome? Exchange.drawn? = some k := by
  obtain ⟨j, start, may⟩ := Run.may run starts he
  obtain updated | ⟨k, status, time, eq⟩ := stored?_cases stored
  · obtain ⟨call, rfl⟩ := call_of_updated? updated
    rw [call] at may
    obtain ⟨r₀, k, time, -, rfl, drawn, rfl⟩ := may
    exact ⟨start, k, rfl, drawn⟩
  · obtain ⟨q, call, a⟩ := e
    cases eq
    exact may.elim

/-! ## How starts keep handles -/

/-- A start mounts handles on its own instance only, so it mounts no more than one. -/
theorem mounts?_of_lawful (lawful : Lawful (MayStart i) t)
    (none : t.findSome? (Exchange.mounted? i) = none) : ∀ x ∈ t, x.mounts? = Option.none := by
  rintro ⟨call, a⟩ hx
  cases call with
  | mountHandle j h =>
    obtain ⟨later, earlier, eq⟩ := List.append_of_mem hx
    have may := (lawful.of_suffix ⟨later, eq.symm⟩).1
    obtain rfl : j = i := may.1
    have mounted := List.findSome?_eq_none_iff.1 none _ hx
    rw [Exchange.mounted?, if_pos rfl] at mounted
    cases mounted
  | _ => rfl

/-- The next call of a start is one by which handles are kept. -/
theorem mayKeep_of_mayStart {call : Call} (lawful : Lawful (MayStart i) t)
    (may : MayStart i call t) : MayKeep call t := by
  cases call with
  | mountHandle j h =>
    obtain ⟨-, none, -, issued, -⟩ := may
    obtain ⟨x, hx, issued⟩ := List.exists_of_findSome?_eq_some issued
    exact ⟨mounts?_of_lawful lawful none, x, hx, issued⟩
  | fireToken k =>
    obtain ⟨h, displaced, token⟩ := may
    obtain ⟨⟨call, a⟩, hx, displaced⟩ := List.exists_of_findSome?_eq_some displaced
    cases call with
    | mountHandle => exact ⟨_, hx, h, displaced, token⟩
    | _ => cases displaced
  | _ => trivial

/-- A start drops a handle only by displacing it. -/
theorem displaced_of_dropped (may : MayStart i e.call t) (dropped : e.exchange.dropped? = some h) :
    e.exchange.displaced? = some h := by
  obtain ⟨q, call, a⟩ := e
  cases call with
  | mountHandle => exact dropped
  | removeHandle | removeCycle => exact may.elim
  | _ => cases dropped

theorem Run.keeps_starts (run : System.Run service (begin c ops m) σ) (starts : AllStarts ops) :
    Keeps σ.log := by
  intro e before he
  obtain ⟨i, start, may⟩ := Run.may run starts he
  exact mayKeep_of_mayStart ((Run.lawful run start).of_suffix
    (System.trace_suffix ((List.suffix_cons e before).trans he))) may

/-- **The handle that was mounted last has not been cancelled.** -/
theorem Run.token_not_fired (run : System.Run service (begin c ops m) σ) (starts : AllStarts ops)
    (issuing : Issuing m) (last : System.last? (Exchange.mounted? i) σ.log = some (q, some h)) :
    h.token ∉ σ.memory.tokens.fired := by
  obtain ⟨e, before, he, -, mounted, -⟩ := System.exists_of_last? last
  have held : handle m.registry i σ.log = some h := by
    rw [handle, last]
    rfl
  exact Run.held_not_fired run (Run.keeps_starts run starts) issuing he
    (mounts?_of_mounted? mounted) held

/-- A handle that an instance has had is the one that it has, or it was displaced. -/
theorem Run.displaced_of_handle (run : System.Run service (begin c ops m) σ)
    (starts : AllStarts ops) {earlier : List Entry} (hl : log <:+ σ.log) (he : earlier <:+ log)
    (held : handle m.registry i earlier = some h) : handle m.registry i log = some h ∨
      ∃ e before, e :: before <:+ log ∧ e.exchange.displaced? = some h := by
  rcases Run.held_or_dropped run hl he held with now | ⟨e, before, he, dropped⟩
  · exact .inl now
  · obtain ⟨j, -, may⟩ := Run.may run starts (he.trans hl)
    exact .inr ⟨e, before, he, displaced_of_dropped may dropped⟩

/-- **All other handles have been cancelled**, once the starts that displaced them are done. -/
theorem Run.fired_of_displaced (run : System.Run service (begin c ops m) σ)
    (starts : AllStarts ops) (he : e :: before <:+ σ.log)
    (displaced : e.exchange.displaced? = some h) {o : Outcome}
    (done : σ.parties e.party = .done o) : h.token ∈ σ.memory.tokens.fired := by
  obtain ⟨i, start⟩ := starts e.party
  obtain ⟨res, -, started⟩ := Run.started run start done
  have member : e.exchange ∈ System.trace e.party σ.log :=
    System.mem_trace.2 ⟨e, he.subset List.mem_cons_self, rfl, rfl⟩
  obtain ⟨y, hy, fired⟩ := started.cleared e.exchange member h displaced
  obtain ⟨f, hf, -, rfl⟩ := System.mem_trace.1 hy
  exact ((Run.told run).fired _).2 (.inl ⟨f, hf, fired⟩)

/-! ## The outcome -/

/-- The operations draw different names for their cycles. -/
def DrawApart (log : List Entry) : Prop :=
  ∀ e ∈ log, ∀ e' ∈ log, e.exchange.drawn?.isSome = true →
    e.exchange.drawn? = e'.exchange.drawn? → e.party = e'.party

/-- Every operation that has begun has returned. -/
def AllReturned (σ : System Outcome) : Prop :=
  ∀ e ∈ σ.log, ∃ o, σ.parties e.party = .done o

/-- What is stored and mounted for the instance `i` when `writer` was the last party to store its
record, and `mounter` the last one to mount a handle. -/
structure Settled (old : Memory) (i : InstanceId) (writer mounter : Party) (s : Scene) : Prop where
  /-- The cycle of the one is stored. -/
  stored : ∃ r k, System.last? (Exchange.stored? i) s.log = some (writer, r) ∧
    s.memory.instances.find? i = some r ∧ r.cycle = some k ∧
    (System.trace writer s.log).findSome? Exchange.drawn? = some k
  /-- The handle of the other one is in the registry, and it has not been cancelled. -/
  mounted : ∃ h, System.last? (Exchange.mounted? i) s.log = some (mounter, some h) ∧
    s.memory.registry.acquire i = some h ∧ s.memory.tokens.isFired h.token = false ∧
    (System.trace mounter s.log).findSome? Exchange.drawn? = some h.cycle
  /-- All other handles that the instance has had were cancelled. -/
  cancelled : ∀ log h, log <:+ s.log → handle old.registry i log = some h →
    s.memory.registry.acquire i = some h ∨ s.memory.tokens.isFired h.token = true

/-- **The outcome of any number of starts**: the start that was the last to write has its cycle
stored, the one that was the last to mount has the one handle that is not cancelled, and so the two
name the same cycle only if both are the same start. -/
theorem starts_settle (run : System.Run service (begin c ops m) σ) (starts : AllStarts ops)
    (issuing : Issuing m) (returned : AllReturned σ) (apart : DrawApart σ.log)
    (start : ops p = .start i) (done : σ.parties p = .done (.started (.ok k))) :
    ∃ writer mounter, Settled m i writer mounter σ.toScene ∧
      ((σ.memory.instances.find? i).bind Instance.cycle =
        (σ.memory.registry.acquire i).map CycleHandle.cycle ↔ writer = mounter) := by
  have told := Run.told run
  obtain ⟨res, eq, started⟩ := Run.started run start done
  cases eq
  obtain ⟨-, h₀, mounted⟩ := started.mounted k rfl
  obtain ⟨e₀, _, he₀, -, mounted⟩ := System.exists_of_findSome? mounted
  obtain ⟨⟨mounter, x⟩, lastMount⟩ := Option.isSome_iff_exists.1
    (System.isSome_last? (he₀.subset List.mem_cons_self) mounted)
  obtain ⟨e, before, he, rfl, mounted, -⟩ := System.exists_of_last? lastMount
  obtain ⟨h, rfl, -, mounts, -, -, drawn, -, r₀, updated, -⟩ := Run.mounts run starts he mounted
  obtain ⟨d₀, _, hd₀, -, updated⟩ := System.exists_of_findSome? updated
  have hd₀ := hd₀.trans ((List.suffix_cons e before).trans he)
  obtain ⟨⟨writer, r⟩, lastWrite⟩ := Option.isSome_iff_exists.1
    (System.isSome_last? (hd₀.subset List.mem_cons_self) (stored?_of_updated? updated))
  obtain ⟨d, before', hd, rfl, stored, -⟩ := System.exists_of_last? lastWrite
  obtain ⟨writes, k', cycle, drawn'⟩ := Run.stores run starts hd stored
  have found : σ.memory.instances.find? i = some r := by
    rw [told.record, row, lastWrite]
    rfl
  have acquired : σ.memory.registry.acquire i = some h := by
    rw [told.handle, handle, lastMount]
    rfl
  have drawn := drawn_of_suffix (Run.lawful run mounts)
    (System.trace_suffix ((List.suffix_cons e before).trans he)) drawn
  have drawn' := drawn_of_suffix (Run.lawful run writes)
    (System.trace_suffix ((List.suffix_cons d before').trans hd)) drawn'
  refine ⟨d.party, e.party, ⟨?_, ?_, ?_⟩, ?_⟩
  · exact ⟨r, k', lastWrite, found, cycle, drawn'⟩
  · refine ⟨h, lastMount, acquired, ?_, drawn⟩
    exact decide_eq_false (Run.token_not_fired run starts issuing lastMount)
  · intro log h' hl held
    rcases Run.displaced_of_handle run starts List.suffix_rfl hl held with
      now | ⟨f, _, hf, displaced⟩
    · exact .inl ((told.handle i).trans now)
    · obtain ⟨o, done⟩ := returned f (hf.subset List.mem_cons_self)
      exact .inr (decide_eq_true (Run.fired_of_displaced run starts hf displaced done))
  · rw [found, acquired]
    show r.cycle = some h.cycle ↔ _
    constructor
    · intro same
      rw [cycle] at same
      rw [same] at drawn'
      obtain ⟨a, _, ha, party, drawn⟩ := System.exists_of_findSome? drawn
      obtain ⟨b, _, hb, party', drawn'⟩ := System.exists_of_findSome? drawn'
      rw [← party, ← party']
      exact apart b (hb.subset List.mem_cons_self) a (ha.subset List.mem_cons_self)
        (by rw [drawn']; rfl) (by rw [drawn, drawn'])
    · intro same
      rw [same, drawn] at drawn'
      rw [cycle, drawn']

/-! ## Sample runs -/

namespace Sample

/-- All parties start a cycle on the same instance. -/
def starts : System Outcome :=
  begin {} (fun _ => .start record.id) memory

/-- One of two starts writes and has its token issued, and then the other one does all of its calls
before the first one goes on. -/
def crossed : System Outcome :=
  after (List.replicate 5 0 ++ List.replicate 7 1 ++ List.replicate 3 0) starts

theorem allReturned_crossed : AllReturned crossed := by
  have two : ∀ e ∈ crossed.log, e.party = 0 ∨ e.party = 1 := by decide
  intro e he
  rcases two e he with eq | eq
  · rw [eq]
    exact ⟨_, rfl⟩
  · rw [eq]
    exact ⟨_, rfl⟩

theorem drawApart_crossed : DrawApart crossed.log := by
  unfold DrawApart
  decide

end Sample

/-- Of the starts of the sample that cross, one is the last to write and the other one the last to
mount its handle. -/
theorem starts_settle_crossed : ∃ writer mounter, writer ≠ mounter ∧
    Settled Sample.memory Sample.record.id writer mounter Sample.crossed.toScene := by
  have issuing : Issuing Sample.memory := by
    constructor
    · rintro t ⟨⟩
    · rintro i h ⟨⟩
  obtain ⟨writer, mounter, settled, same⟩ := starts_settle (Sample.run_after _ Sample.starts)
    (fun _ => ⟨_, rfl⟩) issuing Sample.allReturned_crossed Sample.drawApart_crossed (p := 1) rfl rfl
  refine ⟨writer, mounter, fun eq => ?_, settled⟩
  have agree := same.2 eq
  revert agree
  decide

/-- The start that is the first to write may be the last to mount its handle, and then the handle
of the stored cycle is cancelled. -/
theorem stored_cycle_cancelled : ¬∀ σ, System.Run service Sample.starts σ → AllReturned σ →
    DrawApart σ.log → (σ.memory.instances.find? Sample.record.id).bind Instance.cycle =
      (σ.memory.registry.acquire Sample.record.id).map CycleHandle.cycle := by
  intro agree
  have same := agree _ (Sample.run_after _ Sample.starts) Sample.allReturned_crossed
    Sample.drawApart_crossed
  revert same
  decide

end HistorySync

end MessageGateway
