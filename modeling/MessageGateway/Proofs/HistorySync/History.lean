import MessageGateway.Proofs.Traces

/-!
# The history of instance records and of running cycles

Parties share the instance store, the registry of cycles and the tokens; whatever else they call may
answer in any way. The log of their calls tells what is stored at every moment of a run, which
handle an instance has, and which tokens have been fired.

## Main definitions

* `HistorySync.service`: stores, registry and tokens answer their calls, and anything may come of
  other calls
* `HistorySync.row`, `HistorySync.handle`: the record and the handle of an instance at the moment
  of a log
* `HistorySync.Told`: the log tells what the memory holds

## Main results

* `HistorySync.Run.told`: the log tells what the memory holds at every moment of a run
-/

namespace MessageGateway

namespace Exchange

/-- The instance record that was read. -/
def read? : Exchange → Option Instance
  | ⟨.findInstance _, .ok r⟩ => some r
  | _ => none

/-- The record with which the instance `i` was overwritten as a whole. -/
def updated? (i : InstanceId) : Exchange → Option Instance
  | ⟨.updateInstance r, .ok _⟩ => if r.id = i then some r else none
  | _ => none

/-- The record of the instance `i` that was stored, as a whole or at the end of a cycle. -/
def stored? (i : InstanceId) : Exchange → Option Instance
  | ⟨.updateInstance r, .ok _⟩ => if r.id = i then some r else none
  | ⟨.finishCycle j .., .ok (some r)⟩ => if j = i then some r else none
  | _ => none

/-- What became of the handle of the instance `i`. -/
def mounted? (i : InstanceId) : Exchange → Option (Option CycleHandle)
  | ⟨.mountHandle j h, _⟩ => if j = i then some (some h) else none
  | ⟨.removeHandle j, _⟩ => if j = i then some none else none
  | ⟨.removeCycle j _, some _⟩ => if j = i then some none else none
  | _ => none

/-- The token that was issued. -/
def issued? : Exchange → Option Token
  | ⟨.issueToken, t⟩ => some t
  | _ => none

/-- The token that was fired. -/
def fired? : Exchange → Option Token
  | ⟨.fireToken t, _⟩ => some t
  | _ => none

end Exchange

/-- The call is one of the instance store, the registry or the tokens. -/
def Call.ofCycles : Call → Bool
  | .findInstance _ | .updateInstance _ | .finishCycle .. => true
  | .findHandle _ | .mountHandle .. | .removeHandle _ | .removeCycle .. => true
  | .issueToken | .fireToken _ | .anyFired _ => true
  | _ => false

namespace HistorySync

/-- Instance store, registry and tokens answer their calls. Anything may come of any other call, and
the rest of the memory may change in any way, but they stay as they are. -/
def service : Service := fun m c a m' =>
  if c.ofCycles then m.answer? c = some (a, m')
  else m'.instances = m.instances ∧ m'.registry = m.registry ∧ m'.tokens = m.tokens

variable {m m' : Memory} {c : Call} {a : c.Answer} {i : InstanceId}

theorem answer?_of_service (h : service m c a m') (hc : c.ofCycles = true) :
    m.answer? c = some (a, m') := by
  simpa only [service, hc, if_true] using h

/-- A memory is such a service. -/
theorem service_of_answer? (h : m.answer? c = some (a, m')) : service m c a m' := by
  unfold service
  split
  · exact h
  · next other =>
    cases c with
    | createMessage | updateMessage | createPayload | markPayload | enqueue =>
      simp only [Memory.answer?, Memory.written] at h
      split at h <;> cases h <;> exact ⟨rfl, rfl, rfl⟩
    | _ => first | (cases h <;> exact ⟨rfl, rfl, rfl⟩) | exact absurd rfl other

theorem kept_of_service (h : service m c a m') (hc : c.ofCycles = false) :
    m'.instances = m.instances ∧ m'.registry = m.registry ∧ m'.tokens = m.tokens := by
  simpa only [service, hc, Bool.false_eq_true, if_false] using h

/-! ## What comes of a call -/

theorem service_findInstance {r : Instance} (h : service m (.findInstance i) (.ok r) m') :
    m.instances.find? i = some r ∧ r.id = i := by
  have h := answer?_of_service h rfl
  simp only [Memory.answer?, InstanceStore.get] at h
  cases hr : m.instances.find? i with
  | some r' =>
    rw [hr] at h
    cases h
    exact ⟨rfl, Table.key_of_find? hr⟩
  | none =>
    rw [hr] at h
    cases h

/-- The end of a cycle is written into what is stored, and only if the cycle is still the stored
one. -/
theorem service_finishCycle {k : CycleId} {status : SyncStatus} {time : Timestamp}
    {r : Instance} (h : service m (.finishCycle i k status time) (.ok (some r)) m') :
    ∃ r₀, m.instances.find? i = some r₀ ∧ r₀.cycle = some k ∧
      (r = r₀ ∨ r = r₀.finishSync status time) := by
  have h := answer?_of_service h rfl
  cases hs : m.instances.finish i k status time with
  | ok x =>
    obtain ⟨x, s⟩ := x
    simp only [Memory.answer?, hs] at h
    cases h
    obtain ⟨none, -⟩ | ⟨r₀, r', eq, found, current, written, -⟩ := InstanceStore.finish_cases hs
    · cases none
    · cases eq
      exact ⟨r₀, found, current, written⟩
  | error e =>
    simp only [Memory.answer?, hs] at h
    cases h

/-- What a call does to the records of instances. -/
theorem find?_of_service (h : service m c a m') (i : InstanceId) :
    m'.instances.find? i = (Exchange.stored? i ⟨c, a⟩).or (m.instances.find? i) := by
  cases c with
  | updateInstance r =>
    have h := answer?_of_service h rfl
    cases hs : m.instances.update r with
    | ok s =>
      simp only [Memory.answer?, hs, Memory.written] at h
      cases h
      rw [InstanceStore.find?_of_update hs i, Exchange.stored?]
      by_cases hi : i = r.id
      · simp [hi]
      · simp [hi, Ne.symm hi]
    | error e =>
      simp only [Memory.answer?, hs, Memory.written] at h
      cases h
      rfl
  | finishCycle j k status time =>
    have h := answer?_of_service h rfl
    cases hs : m.instances.finish j k status time with
    | ok x =>
      obtain ⟨x, s⟩ := x
      simp only [Memory.answer?, hs] at h
      cases h
      obtain ⟨rfl, rfl⟩ | ⟨r₀, r, rfl, -, -, -, found⟩ := InstanceStore.finish_cases hs
      · rfl
      · rw [found i, Exchange.stored?]
        by_cases hi : i = j
        · simp [hi]
        · simp [hi, Ne.symm hi]
    | error e =>
      simp only [Memory.answer?, hs] at h
      cases h
      rfl
  | findInstance | findHandle | mountHandle | removeHandle | removeCycle | issueToken | fireToken
  | anyFired =>
    cases answer?_of_service h rfl
    rfl
  | _ =>
    rw [(kept_of_service h rfl).1]
    rfl

/-- What a call does to the handles of instances. -/
theorem acquire_of_service (h : service m c a m') (i : InstanceId) :
    m'.registry.acquire i = (Exchange.mounted? i ⟨c, a⟩).getD (m.registry.acquire i) := by
  cases c with
  | mountHandle j h' =>
    cases answer?_of_service h rfl
    show (m.registry.mount j h').2.acquire i = (if j = i then some (some h') else none).getD _
    rw [CycleRegistry.acquire_mount]
    by_cases hi : i = j
    · simp [hi]
    · simp [hi, Ne.symm hi]
  | removeHandle j =>
    cases answer?_of_service h rfl
    show (m.registry.remove j).2.acquire i = (if j = i then some none else none).getD _
    rw [CycleRegistry.acquire_remove]
    by_cases hi : i = j
    · simp [hi]
    · simp [hi, Ne.symm hi]
  | removeCycle j k =>
    cases answer?_of_service h rfl
    show (m.registry.removeCycle j k).2.acquire i = _
    rw [CycleRegistry.acquire_removeCycle]
    cases (m.registry.removeCycle j k).1 with
    | none => rfl
    | some h' =>
      show _ = (if j = i then some none else none).getD _
      by_cases hi : i = j
      · simp [hi]
      · simp [hi, Ne.symm hi]
  | updateInstance r =>
    have h := answer?_of_service h rfl
    simp only [Memory.answer?, Memory.written] at h
    split at h <;> cases h <;> rfl
  | finishCycle j k status time =>
    have h := answer?_of_service h rfl
    simp only [Memory.answer?] at h
    split at h <;> cases h <;> rfl
  | findInstance | findHandle | issueToken | fireToken | anyFired =>
    cases answer?_of_service h rfl
    rfl
  | _ =>
    rw [(kept_of_service h rfl).2.1]
    rfl

/-- What a call does to the tokens: it issues one with the next number, it fires one, or it leaves
them as they are. -/
theorem tokens_of_service (h : service m c a m') :
    (∀ t, Exchange.issued? ⟨c, a⟩ = some t → t.number = m.tokens.issued ∧
      m'.tokens.issued = m.tokens.issued + 1) ∧
    m.tokens.issued ≤ m'.tokens.issued ∧
    ∀ t, t ∈ m'.tokens.fired ↔ Exchange.fired? ⟨c, a⟩ = some t ∨ t ∈ m.tokens.fired := by
  have kept (issued : Exchange.issued? ⟨c, a⟩ = none) (fired : Exchange.fired? ⟨c, a⟩ = none)
      (same : m'.tokens = m.tokens) : (∀ t, Exchange.issued? ⟨c, a⟩ = some t →
        t.number = m.tokens.issued ∧ m'.tokens.issued = m.tokens.issued + 1) ∧
      m.tokens.issued ≤ m'.tokens.issued ∧
      ∀ t, t ∈ m'.tokens.fired ↔ Exchange.fired? ⟨c, a⟩ = some t ∨ t ∈ m.tokens.fired := by
    simp [issued, fired, same]
  cases c with
  | issueToken =>
    cases answer?_of_service h rfl
    refine ⟨?_, Nat.le_succ _, fun t => by simp [Exchange.fired?, TokenBox.issue]⟩
    rintro _ ⟨⟩
    exact ⟨rfl, rfl⟩
  | fireToken t =>
    cases answer?_of_service h rfl
    show (∀ t', none = some t' → _) ∧ m.tokens.issued ≤ (m.tokens.fire t).issued ∧
      ∀ t', t' ∈ (m.tokens.fire t).fired ↔ some t = some t' ∨ t' ∈ m.tokens.fired
    unfold TokenBox.fire
    split
    · next fired =>
      refine ⟨(by rintro _ ⟨⟩), Nat.le_refl _, fun t' => ⟨.inr, ?_⟩⟩
      rintro (⟨⟨⟩⟩ | h)
      · exact fired
      · exact h
    · refine ⟨(by rintro _ ⟨⟩), Nat.le_refl _, fun t' => ?_⟩
      simp [eq_comm]
  | updateInstance r =>
    have h := answer?_of_service h rfl
    simp only [Memory.answer?, Memory.written] at h
    split at h <;> cases h <;> exact kept rfl rfl rfl
  | finishCycle j k status time =>
    have h := answer?_of_service h rfl
    simp only [Memory.answer?] at h
    split at h <;> cases h <;> exact kept rfl rfl rfl
  | findInstance | findHandle | mountHandle | removeHandle | removeCycle | anyFired =>
    cases answer?_of_service h rfl
    exact kept rfl rfl rfl
  | _ => exact kept rfl rfl (kept_of_service h rfl).2.2

/-! ## What a log tells -/

/-- The record of an instance at the moment of a log: the last one that was stored, or that of the
store `old` at the beginning. -/
def row (old : InstanceStore) (i : InstanceId) (log : List Entry) : Option Instance :=
  ((System.last? (Exchange.stored? i) log).map Prod.snd).or (old.find? i)

/-- The handle of an instance at the moment of a log. -/
def handle (old : CycleRegistry) (i : InstanceId) (log : List Entry) : Option CycleHandle :=
  ((System.last? (Exchange.mounted? i) log).map Prod.snd).getD (old.acquire i)

theorem row_cons (old : InstanceStore) (i : InstanceId) (e : Entry) (log : List Entry) :
    row old i (e :: log) = (e.exchange.stored? i).or (row old i log) := by
  cases h : e.exchange.stored? i with
  | some r => rw [row, System.last?_cons_of_some h]; rfl
  | none => rw [row, System.last?_cons_of_none h]; rfl

theorem handle_cons (old : CycleRegistry) (i : InstanceId) (e : Entry) (log : List Entry) :
    handle old i (e :: log) = (e.exchange.mounted? i).getD (handle old i log) := by
  cases h : e.exchange.mounted? i with
  | some r => rw [handle, System.last?_cons_of_some h]; rfl
  | none => rw [handle, System.last?_cons_of_none h]; rfl

/-- The log tells what the memory holds, when it was `old` at the beginning. -/
structure Told (old : Memory) (s : Scene) : Prop where
  record : ∀ i, s.memory.instances.find? i = row old.instances i s.log
  handle : ∀ i, s.memory.registry.acquire i = handle old.registry i s.log
  fired : ∀ t, t ∈ s.memory.tokens.fired ↔
    (∃ e ∈ s.log, e.exchange.fired? = some t) ∨ t ∈ old.tokens.fired
  /-- Tokens issued since then have numbers of their own. -/
  fresh : ∀ e ∈ s.log, ∀ t, e.exchange.issued? = some t →
    old.tokens.issued ≤ t.number ∧ t.number < s.memory.tokens.issued
  issued : old.tokens.issued ≤ s.memory.tokens.issued
  /-- No two parties were issued the same token. -/
  distinct : ∀ e ∈ s.log, ∀ e' ∈ s.log, ∀ t, e.exchange.issued? = some t →
    e'.exchange.issued? = some t → e.party = e'.party

theorem told_start (m : Memory) : Told m ⟨m, []⟩ where
  record _ := rfl
  handle _ := rfl
  fired t := by simp
  fresh e he := by cases he
  issued := Nat.le_refl _
  distinct e he := by cases he

/-- **The log goes on telling what the memory holds.** -/
theorem Told.next {old : Memory} {s : Scene} {p : Party} (told : Told old s)
    (served : service s.memory c a m) : Told old (s.next p c a m) := by
  obtain ⟨numbered, grows, fires⟩ := tokens_of_service served
  have older : ∀ e ∈ s.log, ∀ t, Exchange.issued? ⟨c, a⟩ = some t →
      e.exchange.issued? ≠ some t := by
    intro e he t now before
    have := (told.fresh e he t before).2
    have := (numbered t now).1
    omega
  constructor
  case record =>
    intro i
    rw [Scene.next, row_cons, ← told.record i]
    exact find?_of_service served i
  case handle =>
    intro i
    rw [Scene.next, handle_cons, ← told.handle i]
    exact acquire_of_service served i
  case fired =>
    intro t
    show t ∈ m.tokens.fired ↔ (∃ e ∈ ⟨p, c, a⟩ :: s.log, e.exchange.fired? = some t) ∨ _
    rw [fires, told.fired, ← or_assoc]
    simp only [List.mem_cons, exists_eq_or_imp]
    rfl
  case fresh =>
    intro e he t ht
    show _ ∧ t.number < m.tokens.issued
    have issued := told.issued
    rcases List.mem_cons.1 he with rfl | he
    · obtain ⟨number, count⟩ := numbered t ht
      omega
    · have := told.fresh e he t ht
      omega
  case issued => exact Nat.le_trans told.issued grows
  case distinct =>
    intro e he e' he' t ht ht'
    rcases List.mem_cons.1 he with rfl | he <;> rcases List.mem_cons.1 he' with rfl | he'
    · rfl
    · exact absurd ht' (older e' he' t ht)
    · exact absurd ht (older e he t ht')
    · exact told.distinct e he e' he' t ht ht'

/-- **The log tells what the memory holds** at every moment of a run. -/
theorem Run.told {ρ : Type} {parties : Party → Program ρ} {m : Memory} {σ : System ρ}
    (run : System.Run service (System.start parties m) σ) : Told m σ.toScene := by
  induction run with
  | refl => exact told_start m
  | tail _ step ih =>
    cases step with
    | call left served => exact ih.next served

end HistorySync

end MessageGateway
