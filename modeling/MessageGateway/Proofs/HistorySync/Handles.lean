import MessageGateway.Proofs.HistorySync.History

/-!
# Handles that are kept

A handle in the registry of cycles has a token of its own. Whoever takes a handle out of the
registry, or displaces it there, fires its token, in a call of its own some time later. As long as
every party keeps to this, the handle that an instance has was never cancelled, and every handle
that it has had before was dropped by some party.

## Main definitions

* `Exchange.mounts?`, `Exchange.dropped?`: the handle that came into the registry, and the one that
  left it
* `HistorySync.MayKeep`, `HistorySync.Keeps`: parties mount handles with new tokens, and fire what
  they have dropped
* `HistorySync.Released`: all that was dropped was fired
* `HistorySync.Issuing`: a memory has issued all tokens that it holds

## Main results

* `HistorySync.Run.mount_of_token`: a handle is known by its token
* `HistorySync.Run.held_not_fired`: the handle that an instance has was not cancelled
* `HistorySync.Run.held_or_dropped`: a handle that an instance has had is still there, or it was
  dropped
-/

namespace MessageGateway

open Program

namespace Exchange

/-- The handle that came into the registry, and its instance. -/
def mounts? : Exchange → Option (InstanceId × CycleHandle)
  | ⟨.mountHandle i h, _⟩ => some (i, h)
  | _ => none

/-- The handle that left the registry. -/
def dropped? : Exchange → Option CycleHandle
  | ⟨.mountHandle .., h⟩ | ⟨.removeHandle _, h⟩ | ⟨.removeCycle .., h⟩ => h
  | _ => none

end Exchange

namespace HistorySync

variable {ρ : Type} {parties : Party → Program ρ} {m m' : Memory} {σ : System ρ}
  {i j : InstanceId} {e e' : Entry} {log before before' : List Entry} {h h' : CycleHandle}

/-! ## How handles are kept -/

/-- The token is that of a handle that was dropped. -/
def Dropped (k : Token) (t : Trace) : Prop :=
  ∃ x ∈ t, ∃ h, x.dropped? = some h ∧ h.token = k

/-- A party mounts one handle, with a token that was issued to it, and fires the tokens of handles
that it has dropped. -/
def MayKeep : Call → Trace → Prop
  | .mountHandle _ h, t => (∀ x ∈ t, x.mounts? = none) ∧ ∃ x ∈ t, x.issued? = some h.token
  | .fireToken k, t => Dropped k t
  | _, _ => True

/-- All parties keep to that. -/
def Keeps (log : List Entry) : Prop :=
  ∀ e before, e :: before <:+ log → MayKeep e.call (System.trace e.party before)

/-- The token of every handle that was dropped has been fired. -/
def Released (t : Trace) : Prop :=
  ∀ x ∈ t, ∀ h, x.dropped? = some h → ∃ y ∈ t, y.fired? = some h.token

/-- A memory has issued all tokens that it holds. -/
structure Issuing (m : Memory) : Prop where
  fired : ∀ t ∈ m.tokens.fired, t.number < m.tokens.issued
  held : ∀ i h, m.registry.acquire i = some h → h.token.number < m.tokens.issued

theorem call_of_mounts? (mounts : e.exchange.mounts? = some (i, h)) :
    e.call = .mountHandle i h := by
  obtain ⟨q, call, a⟩ := e
  cases call with
  | mountHandle => cases mounts; rfl
  | _ => cases mounts

theorem mounted?_of_mounts? (mounts : e.exchange.mounts? = some (i, h)) :
    e.exchange.mounted? i = some (some h) := by
  obtain ⟨q, call, a⟩ := e
  obtain rfl : call = .mountHandle i h := call_of_mounts? mounts
  exact if_pos rfl

theorem mounts?_of_mounted? (mounted : e.exchange.mounted? i = some (some h)) :
    e.exchange.mounts? = some (i, h) := by
  obtain ⟨q, call, a⟩ := e
  unfold Exchange.mounted? Entry.exchange at mounted
  split at mounted
  · next eq =>
    cases eq
    split at mounted
    · next named =>
      cases mounted
      subst named
      rfl
    · cases mounted
  · split at mounted <;> cases mounted
  · split at mounted <;> cases mounted
  · cases mounted

/-- What leaves the registry is the handle of the instance of which the handle changes. -/
theorem dropped_of_service {c : Call} {a : c.Answer} (served : service m c a m') :
    (∀ i x, Exchange.mounted? i ⟨c, a⟩ = some x →
      Exchange.dropped? ⟨c, a⟩ = m.registry.acquire i) ∧
    ∀ h, Exchange.dropped? ⟨c, a⟩ = some h → ∃ i x, Exchange.mounted? i ⟨c, a⟩ = some x := by
  cases c with
  | mountHandle j h' =>
    cases answer?_of_service served rfl
    refine ⟨fun i x changed => ?_, fun h _ => ⟨j, _, if_pos rfl⟩⟩
    obtain ⟨rfl, -⟩ := Option.ite_none_right_eq_some.1 changed
    rfl
  | removeHandle j =>
    cases answer?_of_service served rfl
    refine ⟨fun i x changed => ?_, fun h _ => ⟨j, _, if_pos rfl⟩⟩
    obtain ⟨rfl, -⟩ := Option.ite_none_right_eq_some.1 changed
    rfl
  | removeCycle j k =>
    have answered := answer?_of_service served rfl
    rw [Memory.answer?, CycleRegistry.removeCycle] at answered
    split at answered
    · next held =>
      obtain ⟨h', acquired, -⟩ := Option.map_eq_some_iff.1 held
      rw [CycleRegistry.remove, acquired] at answered
      cases answered
      refine ⟨fun i x changed => ?_, fun h _ => ⟨j, _, if_pos rfl⟩⟩
      obtain ⟨rfl, -⟩ := Option.ite_none_right_eq_some.1 changed
      exact acquired.symm
    · cases answered
      exact ⟨fun _ _ changed => (by cases changed), fun _ dropped => (by cases dropped)⟩
  | _ => exact ⟨fun _ _ changed => (by cases changed), fun _ dropped => (by cases dropped)⟩

/-- The handle of an instance is that of the beginning, or the one that was mounted last. -/
theorem handle_cases {old : CycleRegistry} (held : handle old i log = some h) :
    old.acquire i = some h ∨ ∃ e before, e :: before <:+ log ∧
      e.exchange.mounts? = some (i, h) ∧ ∀ e' before', e' :: before' <:+ log →
        (e'.exchange.mounted? i).isSome = true → e' :: before' <:+ e :: before := by
  rw [handle] at held
  cases last : System.last? (Exchange.mounted? i) log with
  | none =>
    rw [last] at held
    exact .inl held
  | some y =>
    obtain ⟨q, x⟩ := y
    rw [last] at held
    obtain rfl : x = some h := held
    obtain ⟨e, before, he, -, mounted, last⟩ := System.exists_of_last? last
    exact .inr ⟨e, before, he, mounts?_of_mounted? mounted, last⟩

namespace Keeps

/-- A party mounts one handle. -/
theorem mount_once (keeps : Keeps log) (he : e :: before <:+ log) (he' : e' :: before' <:+ log)
    (same : e.party = e'.party) (mounts : e.exchange.mounts? = some (i, h))
    (mounts' : e'.exchange.mounts? = some (j, h')) : e :: before = e' :: before' := by
  have notBefore {e e' : Entry} {before before' : List Entry} {i j : InstanceId}
      {h h' : CycleHandle} (he : e :: before <:+ log) (same : e.party = e'.party)
      (mounts : e.exchange.mounts? = some (i, h)) (mounts' : e'.exchange.mounts? = some (j, h'))
      (he' : e' :: before' <:+ before) : False := by
    have may := keeps e before he
    rw [call_of_mounts? mounts] at may
    have none := may.1 e'.exchange
      (System.mem_trace.2 ⟨e', he'.subset List.mem_cons_self, same.symm, rfl⟩)
    rw [mounts'] at none
    cases none
  rcases List.suffix_or_suffix_of_suffix he he' with hl | hl
  · rcases List.suffix_cons_iff.1 hl with eq | hl
    · exact eq
    · exact (notBefore he' same.symm mounts' mounts hl).elim
  · rcases List.suffix_cons_iff.1 hl with eq | hl
    · exact eq.symm
    · exact (notBefore he same mounts mounts' hl).elim

/-- The token of a handle is issued to the party that mounts it. -/
theorem exists_issued (keeps : Keeps log) (he : e :: before <:+ log)
    (mounts : e.exchange.mounts? = some (i, h)) :
    ∃ d ∈ log, d.party = e.party ∧ d.exchange.issued? = some h.token := by
  have may := keeps e before he
  rw [call_of_mounts? mounts] at may
  obtain ⟨x, hx, issued⟩ := may.2
  obtain ⟨d, hd, party, rfl⟩ := System.mem_trace.1 hx
  exact ⟨d, ((List.suffix_cons e before).trans he).subset hd, party, issued⟩

/-- A token is fired by a party that has dropped its handle. -/
theorem exists_dropped (keeps : Keeps log) (he : e :: before <:+ log) {k : Token}
    (fired : e.exchange.fired? = some k) : ∃ d earlier h, d :: earlier <:+ before ∧
      d.party = e.party ∧ d.exchange.dropped? = some h ∧ h.token = k := by
  have may := keeps e before he
  obtain ⟨q, call, a⟩ := e
  cases call with
  | fireToken =>
    cases fired
    obtain ⟨x, hx, h, dropped, token⟩ := may
    obtain ⟨d, hd, party, rfl⟩ := System.mem_trace.1 hx
    obtain ⟨later, earlier, eq⟩ := List.append_of_mem hd
    exact ⟨d, earlier, h, ⟨later, eq.symm⟩, party, dropped, token⟩
  | _ => cases fired

/-- **A handle is known by its token**: what was mounted twice was mounted once. -/
theorem mount_of_token {s : Scene} (keeps : Keeps s.log) (told : Told m s)
    (he : e :: before <:+ s.log) (he' : e' :: before' <:+ s.log)
    (mounts : e.exchange.mounts? = some (i, h)) (mounts' : e'.exchange.mounts? = some (j, h'))
    (same : h'.token = h.token) : e :: before = e' :: before' := by
  obtain ⟨d, hd, party, issued⟩ := keeps.exists_issued he mounts
  obtain ⟨d', hd', party', issued'⟩ := keeps.exists_issued he' mounts'
  rw [same] at issued'
  have owner := told.distinct d hd d' hd' _ issued issued'
  rw [party, party'] at owner
  exact keeps.mount_once he he' owner mounts mounts'

/-- The instance that has a handle with the token of one that was mounted has that one. -/
theorem mounted_of_token {s : Scene} (keeps : Keeps s.log) (told : Told m s)
    (issuing : Issuing m) (he : e :: before <:+ s.log)
    (mounts : e.exchange.mounts? = some (i, h)) (hl : log <:+ s.log)
    (held : handle m.registry j log = some h') (same : h'.token = h.token) :
    j = i ∧ e :: before <:+ log := by
  rcases handle_cases held with old | ⟨e', before', he', mounts', -⟩
  · obtain ⟨d, hd, -, issued⟩ := keeps.exists_issued he mounts
    have older := issuing.held j h' old
    have fresh := (told.fresh d hd _ issued).1
    rw [same] at older
    omega
  · have eq := keeps.mount_of_token told he (he'.trans hl) mounts mounts' same
    cases eq
    rw [mounts] at mounts'
    cases mounts'
    exact ⟨rfl, he'⟩

end Keeps

/-! ## Tokens -/

/-- What leaves the registry is the handle that an instance has. -/
theorem Run.drops (run : System.Run service (System.start parties m) σ)
    (he : e :: before <:+ σ.log) :
    (∀ i x, e.exchange.mounted? i = some x → e.exchange.dropped? = handle m.registry i before) ∧
    ∀ h, e.exchange.dropped? = some h → ∃ i x, e.exchange.mounted? i = some x := by
  obtain ⟨u, m', run', -, rfl, served⟩ := run.exists_served he List.nil_suffix
  obtain ⟨drops, changes⟩ := dropped_of_service served
  refine ⟨fun i x mounted => ?_, changes⟩
  rw [← (Run.told run').handle]
  exact drops i x mounted

/-- **The handle that an instance has was not cancelled.** -/
theorem Run.held_not_fired (run : System.Run service (System.start parties m) σ)
    (keeps : Keeps σ.log) (issuing : Issuing m) (he : e :: before <:+ σ.log)
    (mounts : e.exchange.mounts? = some (i, h)) (held : handle m.registry i σ.log = some h) :
    h.token ∉ σ.memory.tokens.fired := by
  have told := Run.told run
  obtain ⟨d, hd, -, issued⟩ := keeps.exists_issued he mounts
  have fresh := (told.fresh d hd _ issued).1
  intro fired
  rcases (told.fired _).1 fired with ⟨f, hf, fires⟩ | old
  · obtain ⟨later, earlier, eq⟩ := List.append_of_mem hf
    have hf : f :: earlier <:+ σ.log := ⟨later, eq.symm⟩
    obtain ⟨g, earlier', h', hg, -, dropped, same⟩ := keeps.exists_dropped hf fires
    have hg : g :: earlier' <:+ σ.log := hg.trans ((List.suffix_cons f earlier).trans hf)
    obtain ⟨drops, changes⟩ := Run.drops run hg
    obtain ⟨j, x, changed⟩ := changes h' dropped
    rw [drops j x changed] at dropped
    obtain ⟨rfl, after⟩ := keeps.mounted_of_token told issuing he mounts
      ((List.suffix_cons g earlier').trans hg) dropped same
    -- but there is no change after the mount of the handle that the instance has
    have before_g : g :: earlier' <:+ e :: before := by
      rcases handle_cases held with old | ⟨e', before', he', mounts', last⟩
      · have older := issuing.held _ h old
        omega
      · rw [keeps.mount_of_token told he he' mounts mounts' rfl]
        exact last g earlier' hg (by rw [changed]; rfl)
    have sooner := after.length_le
    have later := before_g.length_le
    simp only [List.length_cons] at sooner later
    omega
  · have older := issuing.fired _ old
    omega

/-- **A handle that an instance has had** is the one that it has, or it was dropped. -/
theorem Run.held_or_dropped (run : System.Run service (System.start parties m) σ)
    (hl : log <:+ σ.log) (hb : before <:+ log) (held : handle m.registry i before = some h) :
    handle m.registry i log = some h ∨
      ∃ e before, e :: before <:+ log ∧ e.exchange.dropped? = some h := by
  induction log with
  | nil =>
    rw [List.suffix_nil.1 hb] at held
    exact .inl held
  | cons e log ih =>
    rcases List.suffix_cons_iff.1 hb with rfl | hb
    · exact .inl held
    · rcases ih ((List.suffix_cons e log).trans hl) hb with now | ⟨d, before', hd, dropped⟩
      · cases changed : e.exchange.mounted? i with
        | none =>
          rw [handle_cons, changed]
          exact .inl now
        | some x =>
          refine .inr ⟨e, log, List.suffix_rfl, ?_⟩
          rw [(Run.drops run hl).1 i x changed, now]
      · exact .inr ⟨d, before', hd.trans (List.suffix_cons _ _), dropped⟩

/-- What a party has dropped was cancelled once the party has released all that it has dropped. -/
theorem fired_of_dropped {s : Scene} (told : Told m s) (he : e ∈ s.log)
    (dropped : e.exchange.dropped? = some h) (released : Released (System.trace e.party s.log)) :
    h.token ∈ s.memory.tokens.fired := by
  have member := System.mem_trace.2 ⟨e, he, rfl, rfl⟩
  obtain ⟨y, hy, fired⟩ := released e.exchange member h dropped
  obtain ⟨f, hf, -, rfl⟩ := System.mem_trace.1 hy
  exact (told.fired _).2 (.inl ⟨f, hf, fired⟩)

end HistorySync

end MessageGateway
