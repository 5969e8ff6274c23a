import MessageGateway.Proofs.HistorySync.Conduct

/-!
# Records that are written back

Reading the record of an instance and writing it back are two calls, and others may write in
between. What is written back then undoes their writes, in all columns but its own: a downgrade
brings an earlier cycle back, and a start or an end of a cycle takes a downgrade back. Nothing is
lost when every operation that writes the record back has read it after the write in question. The
task of a cycle is never in the way, since it checks and writes in one call.

## Main definitions

* `HistorySync.lastRead`: the moment at which a party read a record last
* `HistorySync.Overwrites`: the entries that overwrite a record after some moment

## Main results

* `HistorySync.Run.kept`: what holds of a record goes on to hold
* `HistorySync.columns_kept`: which cycle and which status is stored
-/

namespace MessageGateway

open Program

namespace HistorySync

variable {c : GatewayConfig} {ops : Party → Operation} {m : Memory} {σ : System Outcome}
  {i : InstanceId} {p : Party} {e : Entry} {log before since : List Entry} {r r₀ : Instance}

/-- Any operations on a memory, before the first call. -/
def begin (c : GatewayConfig) (ops : Party → Operation) (m : Memory) : System Outcome :=
  System.start (fun p => (ops p).program c) m

/-! ## What was read -/

/-- The log at the moment at which a party read a record last. -/
def lastRead (p : Party) : List Entry → List Entry
  | [] => []
  | e :: log => if e.party = p ∧ e.exchange.read?.isSome then log else lastRead p log

theorem lastRead_suffix (p : Party) (log : List Entry) : lastRead p log <:+ log := by
  induction log with
  | nil => exact List.suffix_rfl
  | cons e log ih =>
    unfold lastRead
    split
    · exact List.suffix_cons _ _
    · exact ih.trans (List.suffix_cons _ _)

theorem Run.isNamed {ρ : Type} {parties : Party → Program ρ} {σ : System ρ}
    (run : System.Run service (System.start parties m) σ) :
    ∀ x ∈ System.trace p σ.log, x.IsNamed := by
  intro x hx
  obtain ⟨u, m', -, -, served⟩ := run.exists_answered hx
  unfold Exchange.IsNamed
  split
  · exact (service_findInstance served).2
  · trivial

/-- The record that a party has read last is the one that was stored when it did. -/
theorem Run.row_lastRead {ρ : Type} {parties : Party → Program ρ} {σ : System ρ}
    (run : System.Run service (System.start parties m) σ) (hl : log <:+ σ.log)
    (read : (System.trace p log).findSome? Exchange.read? = some r) :
    row m.instances r.id (lastRead p log) = some r := by
  induction log with
  | nil => cases read
  | cons e log ih =>
    have earlier : log <:+ σ.log := (List.suffix_cons e log).trans hl
    unfold lastRead
    by_cases hp : e.party = p
    · subst hp
      rw [System.trace_cons_self, List.findSome?_cons] at read
      cases he : e.exchange.read? with
      | none =>
        rw [he] at read
        rw [if_neg (by simp)]
        exact ih earlier read
      | some r' =>
        rw [he] at read
        cases read
        rw [if_pos (by simp)]
        obtain ⟨u, m', run', -, rfl, served⟩ := run.exists_served hl List.nil_suffix
        obtain ⟨q, call, a⟩ := e
        unfold Exchange.read? Entry.exchange at he
        split at he
        · next eq =>
          cases eq
          cases he
          obtain ⟨found, rfl⟩ := service_findInstance served
          rw [← (Run.told run').record, found]
        · cases he
    · rw [System.trace_cons_of_ne hp] at read
      rw [if_neg fun h => hp h.1]
      exact ih earlier read

/-! ## What is written -/

theorem call_of_updated? (h : e.exchange.updated? i = some r) :
    e.call = .updateInstance r ∧ r.id = i := by
  obtain ⟨q, call, a⟩ := e
  unfold Exchange.updated? Entry.exchange at h
  split at h
  · next eq =>
    cases eq
    split at h
    · next named =>
      cases h
      exact ⟨rfl, named⟩
    · cases h
  · cases h

theorem stored?_of_updated? (h : e.exchange.updated? i = some r) :
    e.exchange.stored? i = some r := by
  obtain ⟨q, call, a⟩ := e
  unfold Exchange.updated? Entry.exchange at h
  split at h
  · next eq =>
    cases eq
    exact h
  · cases h

/-- Right after an entry that overwrites a record, that is what is stored. -/
theorem row_of_updated? {old : InstanceStore} (h : e.exchange.updated? i = some r) :
    row old i (e :: log) = some r := by
  rw [row_cons, stored?_of_updated? h]
  rfl

/-- A record is stored as a whole, or at the end of a cycle. -/
theorem stored?_cases (h : e.exchange.stored? i = some r) : e.exchange.updated? i = some r ∨
    ∃ k status time, e.exchange = ⟨.finishCycle i k status time, .ok (some r)⟩ := by
  obtain ⟨q, call, a⟩ := e
  unfold Exchange.stored? Entry.exchange at h
  split at h
  · next eq =>
    cases eq
    exact .inl h
  · next eq =>
    cases eq
    split at h
    · next named =>
      cases h
      subst named
      exact .inr ⟨_, _, _, rfl⟩
    · cases h
  · cases h

theorem Makes.id_eq {t : Trace} {op : Operation} (h : Makes t op r₀ r) : r.id = r₀.id := by
  cases h <;> rfl

/-- **What is written back** is what the operation makes of the record that was stored when it read
it last. -/
theorem Run.makes (run : System.Run service (begin c ops m) σ) (he : e :: before <:+ σ.log)
    (updated : e.exchange.updated? i = some r) :
    ∃ r₀, row m.instances i (lastRead e.party before) = some r₀ ∧
      Makes (System.trace e.party before) (ops e.party) r₀ r := by
  have lawful := (run.made e.party).lawful (ensures_makes c (ops e.party)) (Run.isNamed run)
  obtain ⟨call, rfl⟩ := call_of_updated? updated
  obtain ⟨r₀, read, makes⟩ := System.may_of_lawful lawful he r call
  refine ⟨r₀, ?_, makes⟩
  rw [makes.id_eq]
  exact Run.row_lastRead run ((List.suffix_cons _ _).trans he) read

/-! ## What is kept -/

/-- The entry `e`, which comes right after the log `before`, overwrites the record of the instance
`i` after the moment `since`. -/
def Overwrites (i : InstanceId) (since log : List Entry) (e : Entry) (before : List Entry) : Prop :=
  e :: before <:+ log ∧ since <:+ before ∧ (e.exchange.updated? i).isSome = true

theorem Overwrites.cases {e' : Entry} {before' : List Entry}
    (h : Overwrites i since (e :: log) e' before') :
    e' :: before' = e :: log ∨ Overwrites i since log e' before' := by
  obtain ⟨hl, hs, updated⟩ := h
  rcases List.suffix_cons_iff.1 hl with eq | hl
  · exact .inl eq
  · exact .inr ⟨hl, hs, updated⟩

theorem Overwrites.skip {e' : Entry} {before' : List Entry}
    (h : Overwrites i since (e :: log) e' before') (other : e.exchange.updated? i = none) :
    Overwrites i since log e' before' := by
  rcases h.cases with eq | overwrites
  · cases eq
    have updated := h.2.2
    rw [other] at updated
    cases updated
  · exact overwrites

theorem not_overwrites_self : ¬Overwrites i since since e before := by
  rintro ⟨hl, hs, -⟩
  have longer := hl.length_le
  have shorter := hs.length_le
  rw [List.length_cons] at longer
  omega

/-- **What holds of a record goes on to hold**, if it is kept by the end of a cycle, and each
operation that overwrites the record either sees to it or has read the record since. -/
theorem Run.kept {K : Instance → Prop} (run : System.Run service (begin c ops m) σ)
    (held : ∃ r, row m.instances i since = some r ∧ K r)
    (finish : ∀ r status time, K r → K (r.finishSync status time))
    (overwrite : ∀ e before, Overwrites i since σ.log e before →
      ∀ r₀ r, Makes (System.trace e.party before) (ops e.party) r₀ r →
        K r ∨ (since <:+ lastRead e.party before ∧ (K r₀ → K r)))
    (hl : log <:+ σ.log) (hs : since <:+ log) : ∃ r, row m.instances i log = some r ∧ K r := by
  -- strong induction on the log: what is written back may have been read long before
  induction hn : log.length using Nat.strongRecOn generalizing log with
  | ind n ih =>
    subst hn
    cases log with
    | nil =>
      cases List.suffix_nil.1 hs
      exact held
    | cons e before =>
      rcases List.suffix_cons_iff.1 hs with rfl | earlier
      · exact held
      · have hl' : before <:+ σ.log := (List.suffix_cons e before).trans hl
        rw [row_cons]
        cases stored : e.exchange.stored? i with
        | none =>
          rw [Option.none_or]
          exact ih before.length (Nat.lt_succ_self _) hl' earlier rfl
        | some r =>
          refine ⟨r, rfl, ?_⟩
          obtain updated | ⟨k, status, time, eq⟩ := stored?_cases stored
          · obtain ⟨r₀, read, makes⟩ := Run.makes run hl updated
            have overwrites : Overwrites i since σ.log e before :=
              ⟨hl, earlier, by rw [updated]; rfl⟩
            obtain kept | ⟨fresh, keeps⟩ := overwrite e before overwrites r₀ r makes
            · exact kept
            · -- the record was read after the moment, when it was as it should be
              have suffix := lastRead_suffix e.party before
              obtain ⟨r₁, read', kept⟩ := ih _ (Nat.lt_succ_of_le suffix.length_le)
                (suffix.trans hl') fresh rfl
              rw [read] at read'
              cases read'
              exact keeps kept
          · obtain ⟨u, m', run', -, rfl, served⟩ := run.exists_served hl List.nil_suffix
            obtain ⟨q, call, a⟩ := e
            cases eq
            obtain ⟨r₀, found, -, written⟩ := service_finishCycle served
            obtain ⟨r₁, read, kept⟩ := ih _ (Nat.lt_succ_self _) hl' earlier rfl
            rw [← (Run.told run').record, found] at read
            cases read
            rcases written with rfl | rfl
            · exact kept
            · exact finish _ _ _ kept

/-- **Which cycle and which status is stored**: what an operation writes back is its own change of
the record that it has read last. So the cycle of a start stays the stored one until the next start,
and a downgrade lasts, if what overwrites them later was read after them. -/
theorem columns_kept (run : System.Run service (begin c ops m) σ) (i : InstanceId) :
    (∀ e before r, e :: before <:+ σ.log → e.exchange.updated? i = some r →
      ∃ r₀, row m.instances i (lastRead e.party before) = some r₀ ∧
        Makes (System.trace e.party before) (ops e.party) r₀ r) ∧
    (∀ e before j r, e :: before <:+ σ.log → e.exchange.updated? i = some r →
      ops e.party = .start j →
      (∀ e' before', Overwrites i (e :: before) σ.log e' before' →
        (∀ j', ops e'.party ≠ .start j') ∧ e :: before <:+ lastRead e'.party before') →
      ∃ r' k, σ.memory.instances.find? i = some r' ∧ r'.cycle = some k ∧
        (System.trace e.party before).findSome? Exchange.drawn? = some k) ∧
    ∀ e before input r, e :: before <:+ σ.log → e.exchange.updated? i = some r →
      ops e.party = .send input →
      (∀ e' before', Overwrites i (e :: before) σ.log e' before' →
        (∃ input', ops e'.party = .send input') ∨ e :: before <:+ lastRead e'.party before') →
      ∃ r', σ.memory.instances.find? i = some r' ∧ r'.status = .error := by
  refine ⟨fun e before r he updated => Run.makes run he updated, ?_, ?_⟩
  · intro e before j r he updated start later
    obtain ⟨r₀, -, makes⟩ := Run.makes run he updated
    rw [start] at makes
    cases makes with
    | @start _ _ k drawn time =>
      have overwrite : ∀ e' before', Overwrites i (e :: before) σ.log e' before' →
          ∀ r₀ r, Makes (System.trace e'.party before') (ops e'.party) r₀ r →
            r.cycle = some k ∨ (e :: before <:+ lastRead e'.party before' ∧
              (r₀.cycle = some k → r.cycle = some k)) := by
        intro e' before' overwrites r₀ r makes
        obtain ⟨notStart, fresh⟩ := later e' before' overwrites
        refine .inr ⟨fresh, fun current => ?_⟩
        generalize ops e'.party = op at makes notStart
        cases makes with
        | start => exact absurd rfl (notStart _)
        | finalize => exact current
        | downgrade => exact current
      obtain ⟨r', stored, current⟩ := Run.kept (K := fun r => r.cycle = some k) run
        ⟨_, row_of_updated? updated, rfl⟩ (fun _ _ _ current => current) overwrite List.suffix_rfl he
      rw [← (Run.told run).record] at stored
      exact ⟨r', k, stored, current, drawn⟩
  · intro e before input r he updated send later
    obtain ⟨r₀, -, makes⟩ := Run.makes run he updated
    rw [send] at makes
    cases makes
    have overwrite : ∀ e' before', Overwrites i (e :: before) σ.log e' before' →
        ∀ r₀ r, Makes (System.trace e'.party before') (ops e'.party) r₀ r →
          r.status = .error ∨ (e :: before <:+ lastRead e'.party before' ∧
            (r₀.status = .error → r.status = .error)) := by
      intro e' before' overwrites r₀ r makes
      obtain ⟨input', send⟩ | fresh := later e' before' overwrites
      · rw [send] at makes
        cases makes
        exact .inl rfl
      · refine .inr ⟨fresh, fun error => ?_⟩
        generalize ops e'.party = op at makes
        cases makes with
        | start => exact error
        | finalize => exact error
        | downgrade => rfl
    obtain ⟨r', stored, error⟩ := Run.kept (K := fun r => r.status = .error) run
      ⟨_, row_of_updated? updated, rfl⟩ (fun _ _ _ error => error) overwrite List.suffix_rfl he
    rw [← (Run.told run).record] at stored
    exact ⟨r', stored, error⟩

/-! ## Sample runs -/

namespace Sample

/-- An instance on which no history sync was run. -/
def record : Instance :=
  .make ⟨"A"⟩ .active

/-- A memory with the instance. -/
def memory : Memory where
  instances := Table.empty.insert record

/-- No session can be opened, clocks stand still, and a cycle is named by the number of tokens. -/
def network (m : Memory) : (c : Call) → Option c.Answer
  | .openSession _ => some (.error .notLoggedIn)
  | .now => some (⟨0, 0⟩ : Timestamp)
  | .newCycleId => some (⟨BitVec.ofNat 128 m.tokens.issued⟩ : CycleId)
  | .spawn _ => some (0 : TaskId)
  | _ => none

/-- The memory answers what it can, and the network the rest. -/
def answer? (c : Call) (m : Memory) : Option (c.Answer × Memory) :=
  (m.answer? c).or ((network m c).map fun a => (a, m))

theorem service_of_answer? (c : Call) (m : Memory) (a : c.Answer) (m' : Memory)
    (h : answer? c m = some (a, m')) : service m c a m' := by
  cases hc : m.answer? c with
  | some r =>
    rw [answer?, hc, Option.some_or] at h
    rw [h] at hc
    exact HistorySync.service_of_answer? hc
  | none =>
    rw [answer?, hc, Option.none_or, Option.map_eq_some_iff] at h
    obtain ⟨b, hb, eq⟩ := h
    cases eq
    cases c <;> first | exact ⟨rfl, rfl, rfl⟩ | cases hb

/-- The parties make their calls in this order. -/
def after (schedule : List Party) (s : System Outcome) : System Outcome :=
  System.play answer? schedule s

theorem run_after (schedule : List Party) (s : System Outcome) :
    System.Run service s (after schedule s) :=
  System.run_play service_of_answer? schedule s

/-- One party sends a message on a session that is gone, and all others start a cycle. -/
def operation (p : Party) : Operation :=
  if p = 0 then .send ⟨record.id, "1@g.us", .text "hello", none⟩ else .start record.id

/-- These operations, before the first call. -/
def race : System Outcome :=
  begin {} operation memory

end Sample

/-- A start on the sample, and then a downgrade that reads the record after it. -/
theorem columns_kept_in_turn : ∃ r k,
    (Sample.after [1, 1, 1, 1, 0, 0, 0, 0] Sample.race).memory.instances.find? Sample.record.id =
      some r ∧ r.cycle = some k := by
  have kept := columns_kept (Sample.run_after [1, 1, 1, 1, 0, 0, 0, 0] Sample.race) Sample.record.id
  let started := Sample.record.beginSync ⟨0⟩ ⟨0, 0⟩
  have later : ∀ e' before', Overwrites Sample.record.id (Sample.after [1, 1, 1, 1] Sample.race).log
      (Sample.after [1, 1, 1, 1, 0, 0, 0, 0] Sample.race).log e' before' →
      (∀ j, Sample.operation e'.party ≠ .start j) ∧
        (Sample.after [1, 1, 1, 1] Sample.race).log <:+ lastRead e'.party before' := by
    intro e' before' overwrites
    -- of the calls since the start, only the last one overwrites the record
    rcases overwrites.cases with eq | overwrites
    · cases eq
      refine ⟨?_, [_, _], rfl⟩
      rintro j ⟨⟩
    · exact absurd (((overwrites.skip rfl).skip rfl).skip rfl) not_overwrites_self
  obtain ⟨r, k, stored, current, -⟩ := kept.2.1 ⟨1, .updateInstance started, .ok started⟩
    (Sample.after [1, 1, 1] Sample.race).log Sample.record.id started ⟨[_, _, _, _], rfl⟩ rfl rfl
    later
  exact ⟨r, k, stored, current⟩

/-- The record that a start wrote last. -/
def lastStart (ops : Party → Operation) (i : InstanceId) (log : List Entry) : Option Instance :=
  log.findSome? fun e =>
    match ops e.party with
    | .start _ => e.exchange.updated? i
    | _ => none

/-- A downgrade that had read the record before a start wrote it brings the earlier cycle back, and
a start that had read it before a downgrade takes the downgrade back. -/
theorem columns_lost :
    (¬∀ σ, System.Run service Sample.race σ → ∀ r,
      lastStart Sample.operation Sample.record.id σ.log = some r →
      (σ.memory.instances.find? Sample.record.id).map Instance.cycle = some r.cycle) ∧
    ¬∀ σ, System.Run service Sample.race σ →
      ∀ e ∈ σ.log, e.party = 0 → (e.exchange.updated? Sample.record.id).isSome = true →
      (σ.memory.instances.find? Sample.record.id).map Instance.status = some .error := by
  constructor
  · intro current
    -- the start goes from its first call to its write while the downgrade is about to write
    have lost := current _ (Sample.run_after [0, 0, 0, 1, 1, 1, 1, 0] Sample.race)
      (Sample.record.beginSync ⟨0⟩ ⟨0, 0⟩) (by decide)
    revert lost
    decide
  · intro lasting
    -- the downgrade comes between the look and the write of the start
    have lost := lasting _ (Sample.run_after [1, 1, 1, 0, 0, 0, 0, 1] Sample.race)
    revert lost
    decide

end HistorySync

end MessageGateway
