import MessageGateway.HistorySync.Coordinator
import MessageGateway.Proofs.HistorySync.Handles
import Mathlib.Data.List.Nodup

/-!
# Handles that are replaced and released

A change of the registry and the firing of the token that it has cost are two calls, and other
changes may come in between. When all changes are over, the handles that have not been cancelled are
just those in the registry.

## Main definitions

* `HistorySync.Change`: replacing and releasing handles
* `HistorySync.installed`: the handles that came into the registry

## Main results

* `HistorySync.ensures_change`: a change mounts a handle of its own, and fires what it has dropped
* `HistorySync.one_live_handle`: an instance has at most one handle that was not cancelled
-/

namespace MessageGateway

open Program Setting

namespace HistorySync

/-- A change of the registry. -/
inductive Change where
  /-- A new handle for the cycle takes the place of the one that the instance has. -/
  | replace (i : InstanceId) (c : CycleId)
  /-- The handle of the instance is released. -/
  | release (i : InstanceId)
  /-- The handle of the instance is released if it is that of the cycle. -/
  | releaseCycle (i : InstanceId) (c : CycleId)

/-- The program of a change. The token of a new handle is a new one. -/
def Change.program : Change → Program (Option CycleHandle)
  | .replace i c => do replaceHandle i ⟨c, ← issueToken⟩
  | .release i => releaseHandle i
  | .releaseCycle i c => MessageGateway.releaseCycle i c

/-! ## The calls of a change -/

section

variable {H : Exchange → Prop} {May : Call → Trace → Prop} {t : Trace} {x : Exchange}

theorem released_nil : Released [] :=
  List.forall_mem_nil _

theorem Released.cons (released : Released t) (other : x.dropped? = none) : Released (x :: t) := by
  intro y hy h dropped
  rcases List.mem_cons.1 hy with rfl | hy
  · rw [other] at dropped
    cases dropped
  · obtain ⟨z, hz, fired⟩ := released y hy h dropped
    exact ⟨z, List.mem_cons_of_mem _ hz, fired⟩

theorem Released.fire {h : CycleHandle} (released : Released t) (dropped : x.dropped? = some h) :
    Released (⟨.fireToken h.token, ()⟩ :: x :: t) := by
  intro y hy h' dropped'
  rcases List.mem_cons.1 hy with rfl | hy
  · cases dropped'
  · rcases List.mem_cons.1 hy with rfl | hy
    · rw [dropped] at dropped'
      cases dropped'
      exact ⟨_, List.mem_cons_self, rfl⟩
    · obtain ⟨z, hz, fired⟩ := released y hy h' dropped'
      exact ⟨z, List.mem_cons_of_mem _ (List.mem_cons_of_mem _ hz), fired⟩

/-- What is dropped by the first call is fired, where that may be done. -/
theorem ensures_releasing (fire : ∀ k t, Dropped k t → May (.fireToken k) t)
    {drop : Program (Option CycleHandle)} (released : Released t)
    (drops : (traced H May).Ensures (fun h u => ∃ x, u = x :: t ∧ x.dropped? = h) drop t) :
    (traced H May).Ensures (fun _ u => Released u)
      (do
        let dropped ← drop
        if let some h := dropped then
          fireToken h.token
        return dropped) t := by
  refine drops.bind fun h u _ hQ => ?_
  obtain ⟨x, rfl, dropped⟩ := hQ u rfl
  cases h with
  | none => exact ensures_done (released.cons dropped)
  | some h =>
    have may := fire h.token (x :: t) ⟨x, List.mem_cons_self, h, dropped, rfl⟩
    refine (ensures_asked may).bind fun _ u _ hQ => ?_
    obtain ⟨rfl, -⟩ := hQ u rfl
    exact ensures_done (released.fire dropped)

theorem ensures_releaseHandle (fire : ∀ k t, Dropped k t → May (.fireToken k) t)
    {i : InstanceId} (may : May (.removeHandle i) t) (released : Released t) :
    (traced H May).Ensures (fun _ u => Released u) (releaseHandle i) t :=
  ensures_releasing fire released (ensures_call may fun _ _ => ⟨_, rfl, rfl⟩)

theorem ensures_releaseCycle (fire : ∀ k t, Dropped k t → May (.fireToken k) t)
    {i : InstanceId} {c : CycleId} (may : May (.removeCycle i c) t) (released : Released t) :
    (traced H May).Ensures (fun _ u => Released u) (MessageGateway.releaseCycle i c) t :=
  ensures_releasing fire released (ensures_call may fun _ _ => ⟨_, rfl, rfl⟩)

/-- **A change keeps handles as it should.** -/
theorem ensures_change (change : Change) :
    (traced H MayKeep).Ensures (fun _ u => Released u) change.program [] := by
  have fire (k : Token) (t : Trace) (dropped : Dropped k t) : MayKeep (.fireToken k) t := dropped
  cases change with
  | release i => exact ensures_releaseHandle fire trivial released_nil
  | releaseCycle i c => exact ensures_releaseCycle fire trivial released_nil
  | replace i c =>
    have issue : (traced H MayKeep).Ensures _ issueToken [] := ensures_asked trivial
    refine issue.bind fun token u _ hQ => ?_
    obtain ⟨rfl, -⟩ := hQ u rfl
    have may : MayKeep (.mountHandle i ⟨c, token⟩) [⟨.issueToken, token⟩] :=
      ⟨List.forall_mem_singleton.2 rfl, _, List.mem_singleton_self _, rfl⟩
    have released : Released [⟨.issueToken, token⟩] := released_nil.cons rfl
    exact ensures_releasing fire released (ensures_call may fun _ _ => ⟨_, rfl, rfl⟩)

end

/-! ## Changes at the same time -/

/-- Any changes of a registry, before the first call. -/
def changing (changes : Party → Change) (m : Memory) : System (Option CycleHandle) :=
  System.start (fun p => (changes p).program) m

/-- The handles that came into the registry, each with its instance. -/
def installed (log : List Entry) : List (InstanceId × CycleHandle) :=
  log.filterMap fun e => e.exchange.mounts?

variable {changes : Party → Change} {m : Memory} {σ : System (Option CycleHandle)}
  {i : InstanceId} {h h' : CycleHandle}

theorem mem_installed {log : List Entry} : (i, h) ∈ installed log ↔
    ∃ e before, e :: before <:+ log ∧ e.exchange.mounts? = some (i, h) := by
  constructor
  · intro member
    obtain ⟨e, he, mounts⟩ := List.mem_filterMap.1 member
    obtain ⟨later, before, eq⟩ := List.append_of_mem he
    exact ⟨e, before, ⟨later, eq.symm⟩, mounts⟩
  · rintro ⟨e, before, he, mounts⟩
    exact List.mem_filterMap.2 ⟨e, he.subset List.mem_cons_self, mounts⟩

theorem Run.keeps (run : System.Run service (changing changes m) σ) : Keeps σ.log := by
  intro e before he
  have lawful := (run.made e.party).lawful (H := fun _ => True) (ensures_change (changes e.party))
    fun _ _ => trivial
  exact System.may_of_lawful lawful he

/-- No handle comes into the registry twice. -/
theorem nodup_installed {s : Scene} (keeps : Keeps s.log) (told : Told m s) {log : List Entry}
    (hl : log <:+ s.log) : (installed log).Nodup := by
  induction log with
  | nil => exact List.nodup_nil
  | cons e log ih =>
    have ih := ih ((List.suffix_cons e log).trans hl)
    rw [installed, List.filterMap_cons]
    split
    · exact ih
    · next x mounts =>
      obtain ⟨i, h⟩ := x
      refine List.nodup_cons.2 ⟨fun twice => ?_, ih⟩
      obtain ⟨e', before', he', mounts'⟩ := mem_installed.1 twice
      have eq := keeps.mount_of_token told hl (he'.trans ((List.suffix_cons e log).trans hl))
        mounts mounts' rfl
      have shorter := he'.length_le
      rw [← eq, List.length_cons] at shorter
      omega

/-- What stands in the registry came into it. -/
theorem installed_of_acquire (run : System.Run service (changing changes m) σ)
    (empty : m.registry = .empty) (held : σ.memory.registry.acquire i = some h) :
    (i, h) ∈ installed σ.log := by
  rw [(Run.told run).handle] at held
  rcases handle_cases held with old | ⟨e, before, he, mounts, -⟩
  · rw [empty] at old
    cases old
  · exact mem_installed.2 ⟨e, before, he, mounts⟩

/-- **The handles that were not cancelled are those in the registry**, when no change is going
on. -/
theorem isFired_iff (run : System.Run service (changing changes m) σ) (issuing : Issuing m)
    (idle : ∀ e ∈ σ.log, ∃ o, σ.parties e.party = .done o) (was : (i, h) ∈ installed σ.log) :
    σ.memory.tokens.isFired h.token = false ↔ σ.memory.registry.acquire i = some h := by
  have told := Run.told run
  have keeps := Run.keeps run
  obtain ⟨e, before, he, mounts⟩ := mem_installed.1 was
  rw [told.handle]
  constructor
  · intro live
    have first : handle m.registry i (e :: before) = some h := by
      rw [handle_cons, mounted?_of_mounts? mounts]
      rfl
    rcases Run.held_or_dropped run List.suffix_rfl he first with held | ⟨g, before', hg, dropped⟩
    · exact held
    · have hg := hg.subset List.mem_cons_self
      obtain ⟨o, done⟩ := idle g hg
      have made := run.made g.party
      rw [done] at made
      have released := made.result (H := fun _ => True) (ensures_change (changes g.party))
        fun _ _ => trivial
      have fired := fired_of_dropped told hg dropped released
      exact absurd fired (of_decide_eq_false live)
  · intro held
    exact decide_eq_false (Run.held_not_fired run keeps issuing he mounts held)

/-- **At most one live handle.** From an empty registry on, any handles are replaced and released,
each of them by two calls between which anything may happen. Whenever no change is going on, a
handle that came into the registry has not been cancelled if and only if it is the one that its
instance has. So an instance has at most one handle that was not cancelled, and there are as many of
them as the registry has rows. -/
theorem one_live_handle (run : System.Run service (changing changes m) σ)
    (empty : m.registry = .empty) (issuing : Issuing m)
    (idle : ∀ e ∈ σ.log, ∃ o, σ.parties e.party = .done o) :
    (∀ i h, (i, h) ∈ installed σ.log →
      (σ.memory.tokens.isFired h.token = false ↔ σ.memory.registry.acquire i = some h)) ∧
    (∀ i h h', (i, h) ∈ installed σ.log → (i, h') ∈ installed σ.log →
      σ.memory.tokens.isFired h.token = false → σ.memory.tokens.isFired h'.token = false →
      h = h') ∧
    ((installed σ.log).filter fun x => !σ.memory.tokens.isFired x.2.token).length =
      σ.memory.registry.size := by
  have live (i : InstanceId) (h : CycleHandle) (was : (i, h) ∈ installed σ.log) :=
    isFired_iff run issuing idle was
  refine ⟨live, fun i h h' was was' notFired notFired' => ?_, ?_⟩
  · have held := (live i h was).1 notFired
    rw [(live i h' was').1 notFired'] at held
    exact (Option.some.inj held).symm
  · have rows (i : InstanceId) (h : CycleHandle) :
        (i, h) ∈ σ.memory.registry.rows ↔ σ.memory.registry.acquire i = some h := by
      constructor
      · intro row
        rw [CycleRegistry.acquire, show σ.memory.registry.find? i = some (i, h) from
          Table.find?_of_mem row]
        rfl
      · intro held
        obtain ⟨⟨j, h'⟩, found, eq⟩ := Option.map_eq_some_iff.1 held
        cases eq
        obtain rfl : j = i := Table.key_of_find? found
        exact List.mem_of_find?_eq_some found
    have nodup := nodup_installed (Run.keeps run) (Run.told run) List.suffix_rfl
    refine List.Perm.length_eq ((List.perm_ext_iff_of_nodup (nodup.filter _)
      (List.Nodup.of_map _ σ.memory.registry.distinct)).2 ?_)
    rintro ⟨i, h⟩
    rw [List.mem_filter, rows, Bool.not_eq_true']
    constructor
    · rintro ⟨was, notFired⟩
      exact (live i h was).1 notFired
    · intro held
      have was := installed_of_acquire run empty held
      exact ⟨was, (live i h was).2 held⟩

/-! ## A sample run -/

namespace Sample

/-- Two parties replace the handle of one instance, one that of another instance, and all others
release the first cycle of the first instance. -/
def rivals : Party → Change
  | 0 => .replace ⟨"A"⟩ ⟨1⟩
  | 1 => .replace ⟨"A"⟩ ⟨2⟩
  | 2 => .replace ⟨"B"⟩ ⟨3⟩
  | _ => .releaseCycle ⟨"A"⟩ ⟨1⟩

/-- The second handle displaces the first one, and before its token is fired the release comes too
late to find it. -/
def changed : System (Option CycleHandle) :=
  System.play Memory.answer? [0, 1, 0, 1, 3, 2, 2, 1] (changing rivals {})

end Sample

/-- In the sample run the two handles that were not displaced are left. -/
theorem one_live_handle_sample :
    Sample.changed.memory.tokens.isFired ⟨0⟩ = true ∧
      Sample.changed.memory.tokens.isFired ⟨1⟩ = false ∧
      ((installed Sample.changed.log).filter fun x =>
        !Sample.changed.memory.tokens.isFired x.2.token).length = 2 := by
  have run : System.Run service (changing Sample.rivals {}) Sample.changed :=
    System.run_play (fun _ _ _ _ => service_of_answer?) _ _
  have issuing : Issuing {} := by
    constructor
    · rintro t ⟨⟩
    · rintro i h ⟨⟩
  have idle : ∀ e ∈ Sample.changed.log, ∃ o, Sample.changed.parties e.party = .done o := by
    have parties : ∀ e ∈ Sample.changed.log, e.party ∈ [0, 1, 2, 3] := by decide
    intro e he
    have party := parties e he
    generalize e.party = p at party
    simp only [List.mem_cons, List.not_mem_nil, or_false] at party
    rcases party with rfl | rfl | rfl | rfl <;> exact ⟨_, rfl⟩
  obtain ⟨live, -, count⟩ := one_live_handle run rfl issuing idle
  have held : Sample.changed.memory.registry.acquire ⟨"A"⟩ = some ⟨⟨2⟩, ⟨1⟩⟩ := by decide
  refine ⟨?_, (live ⟨"A"⟩ ⟨⟨2⟩, ⟨1⟩⟩ (by decide)).2 held, count⟩
  refine Bool.of_not_eq_false fun notFired => ?_
  have first := (live ⟨"A"⟩ ⟨⟨1⟩, ⟨0⟩⟩ (by decide)).1 notFired
  rw [held] at first
  revert first
  decide

end HistorySync

end MessageGateway
