import MessageGateway.Proofs.Dispatch.Alone
import MessageGateway.Proofs.Traces

/-!
# How a send alone comes to its record

Before a send stores its record it may stop for one of seven reasons, each of which the memory or
the calls of the send tell. If it does not stop, it has the address that the destination resolves
to and the message that the content makes. Nothing is written by then, but the status of an
instance whose session was refused.

## Main definitions

* `Dispatch.approach`: everything a send does before it stores its record
* `Dispatch.Refusal`: why a send stops there
* `Dispatch.Approved`: what is known when it does not

## Main results

* `Solo.ensures_made`: a program alone makes a trace of its own
* `Dispatch.ensures_approach`: an approach ends with a refusal or an approval
-/

namespace MessageGateway

open Program Setting

variable {ω α β : Type} {outside : (c : Call) → ω → c.Answer × ω} {s t : Solo ω}

/-- Alone against something that answers every call, a program has one end, of which all that it
ensures holds. -/
theorem Setting.ensures_of_run {answer : (c : Call) → ω → c.Answer × ω} {p : Program α} {w : ω}
    {Q : α → ω → Prop} (h : Q (p.run answer w).1 (p.run answer w).2) :
    (alone answer).Ensures Q p w := by
  induction p generalizing w with
  | done a =>
    rintro _ rfl
    exact h
  | ask c next ih =>
    rintro _ rfl
    refine ⟨trivial, fun a u served => ih a ?_⟩
    rw [Program.run, served] at h
    exact h

/-- A program ensures together what it ensures. -/
theorem Setting.Ensures.and {σ : Type} {E : Setting σ} {Q R : α → σ → Prop} {p : Program α} {w : σ}
    (hQ : E.Ensures Q p w) (hR : E.Ensures R p w) :
    E.Ensures (fun a u => Q a u ∧ R a u) p w := by
  induction p generalizing w with
  | done a => exact fun u hu => ⟨hQ u hu, hR u hu⟩
  | ask c next ih =>
    intro u hu
    obtain ⟨allowed, left⟩ := hQ u hu
    obtain ⟨-, right⟩ := hR u hu
    exact ⟨allowed, fun a v hv => ih a (left a v hv) (right a v hv)⟩

namespace Solo

/-! ## The trace of a program alone -/

theorem log_of_answer {c : Call} {a : c.Answer} (served : answer outside c s = (a, t)) :
    t.log = ⟨c, a⟩ :: s.log := by
  unfold answer at served
  split at served <;> cases served <;> rfl

/-- **A program alone makes a trace of its own**, after the calls that were made before. -/
theorem ensures_made (p : Program α) : (setting outside).Ensures
    (fun a t => ∃ calls, t.log = calls ++ s.log ∧ p.Made calls (.done a)) p s := by
  induction p generalizing s with
  | done a =>
    rintro _ rfl
    exact ⟨[], rfl, .start⟩
  | ask c next ih =>
    rintro _ rfl
    refine ⟨trivial, fun a u served => (ih a).mono ?_⟩
    rintro b v - ⟨calls, log, made⟩
    refine ⟨calls ++ [⟨c, a⟩], ?_, (Made.start.call a).trans made⟩
    rw [log, log_of_answer served, List.append_assoc, List.singleton_append]

theorem ensures_suffix (p : Program α) :
    (setting outside).Ensures (fun _ t => s.log <:+ t.log) p s :=
  (ensures_made p).mono fun _ _ _ ⟨calls, log, _⟩ => ⟨calls, log.symm⟩

/-- What is known of every answer is known of the whole log. -/
theorem ensures_answered {H : Exchange → Prop} (p : Program α)
    (h : ∀ {c s a t}, answer outside c s = (a, t) → H ⟨c, a⟩) (before : ∀ e ∈ s.log, H e) :
    (setting outside).Ensures (fun _ t => ∀ e ∈ t.log, H e) p s := by
  induction p generalizing s with
  | done a =>
    rintro _ rfl
    exact before
  | ask c next ih =>
    rintro _ rfl
    refine ⟨trivial, fun a u served => ih a ?_⟩
    rw [log_of_answer served]
    exact List.forall_mem_cons.2 ⟨h served, before⟩

/-- What was called before a program was begun makes no difference to it. -/
theorem run_append (p : Program α) (s : Solo ω) (log : List Exchange) :
    p.run (answer outside) { s with log := s.log ++ log } =
      ((p.run (answer outside) s).1,
        { (p.run (answer outside) s).2 with log := (p.run (answer outside) s).2.log ++ log }) := by
  induction p generalizing s with
  | done a => rfl
  | ask c next ih =>
    have same : answer outside c { s with log := s.log ++ log } =
        ((answer outside c s).1,
          { (answer outside c s).2 with log := (answer outside c s).2.log ++ log }) := by
      unfold answer
      dsimp only
      split <;> rfl
    simp only [Program.run, same, ih]

/-- What a program ensures when nothing was called before, it ensures after other calls. -/
theorem ensures_after {p : Program α} {Q : α → Solo ω → Prop}
    (h : (setting outside).Ensures Q p ⟨s.memory, s.world, []⟩) :
    (setting outside).Ensures
      (fun a t => ∃ u, Q a u ∧ t.memory = u.memory ∧ t.log = u.log ++ s.log) p s := by
  have run : p.run (answer outside) ⟨s.memory, s.world, [] ++ s.log⟩ = _ :=
    run_append p ⟨s.memory, s.world, []⟩ s.log
  refine ensures_of_run ?_
  rw [show s = ⟨s.memory, s.world, [] ++ s.log⟩ from rfl, run]
  exact ⟨_, run_of_ensures h, rfl, rfl⟩

/-- A preparation leaves the memory alone. -/
theorem ensures_unread {p : Program α} (only : p.Only fun c => c.isPreparation = true) :
    (setting outside).Ensures (fun _ t => t.memory = s.memory) p s := by
  induction p generalizing s with
  | done a =>
    rintro _ rfl
    rfl
  | ask c next ih =>
    rintro _ rfl
    refine ⟨trivial, fun a u served => ?_⟩
    obtain ⟨w, rfl⟩ := answer_of_none (Call.answer?_of_isPreparation only.1 _) served
    exact (ih a (only.2 a)).mono fun _ _ _ same => same

end Solo

namespace Dispatch

/-! ## The approach -/

/-- Everything a send does before it stores its record. -/
def approach (c : GatewayConfig) (input : SendInput) :
    ExceptT SendFailure Program (Address × Outbound) := do
  checkInstance input.owner
  checkSession input.owner
  prepare c input

/-- Why a send for the input stops before it stores its record, with the memory `m` at its
beginning and with these calls. -/
inductive Refusal (c : GatewayConfig) (input : SendInput) (m : Memory) (calls : Trace) :
    DispatchError → Prop
  | unknown (absent : m.instances.find? input.owner = none) :
    Refusal c input m calls (.notFound input.owner)
  | inactive {r : Instance} (found : m.instances.find? input.owner = some r)
      (inactive : r.isActive = false) :
    Refusal c input m calls (.notConnected input.owner)
  | disconnected {r : Instance} {a : (Call.openSession input.owner).Answer}
      (found : m.instances.find? input.owner = some r)
      (asked : ⟨.openSession input.owner, a⟩ ∈ calls)
      (refused : Exchange.isRefusal ⟨.openSession input.owner, a⟩ = true) :
    Refusal c input m calls (.notConnected input.owner)
  | unready {r : Instance} (found : m.instances.find? input.owner = some r)
      (asked : ⟨.sessionReady input.owner, false⟩ ∈ calls) :
    Refusal c input m calls (.sessionUnavailable input.owner)
  | nowhere {e : AddressError} (h : Destination.normalize c.resolver input.recipient = .error e) :
    Refusal c input m calls (.invalidAddress e.message)
  | invalid {e : DispatchError} (h : input.content.validate = .error e) :
    Refusal c input m calls e
  | unloaded {media : MediaInput} {category : MediaCategory} {e : TransportError}
      (valid : input.content.validate = .ok ())
      (file : input.content.media? = some (media, category))
      (asked : ⟨.upload input.owner media.data category, .error e⟩ ∈ calls) :
    Refusal c input m calls (.upload e)

/-- What is known when a send for the input comes to its record. -/
structure Approved (c : GatewayConfig) (input : SendInput) (m : Memory) (calls : Trace)
    (address : Address) (outbound : Outbound) : Prop where
  /-- The instance is there and active. -/
  known : ∃ r, m.instances.find? input.owner = some r ∧ r.isActive = true
  /-- The address is what the destination resolves to in this send. -/
  resolved : ∃ calls', calls' <:+: calls ∧
    (resolve c.resolver input.owner input.recipient).Made calls' (.done (.ok address))
  /-- The content is complete. -/
  valid : input.content.validate = .ok ()
  /-- The message is made of the content. -/
  built : ∃ uploaded time words, input.content.build uploaded time words = .ok outbound

/-- The memory is `m`, but for the instances when the session of `i` was refused. -/
inductive Spared (i : InstanceId) (m : Memory) (t : Solo ω) : Prop
  | kept (memory : t.memory = m)
  | lowered {r : Instance} {a : (Call.openSession i).Answer} {instances : InstanceStore}
      (found : m.instances.find? i = some r) (asked : ⟨.openSession i, a⟩ ∈ t.log)
      (refused : Exchange.isRefusal ⟨.openSession i, a⟩ = true)
      (memory : t.memory = { m with instances })

/-- How a part of an approach ends: with a refusal, or with a result that satisfies `Q` in the
memory as it was. -/
def Comes (c : GatewayConfig) (input : SendInput) (m : Memory) (Q : α → Solo ω → Prop) :
    Except SendFailure α → Solo ω → Prop
  | .ok a, t => t.memory = m ∧ Q a t
  | .error failure, t => Spared input.owner m t ∧ ∃ e, failure = .of e ∧ Refusal c input m t.log e

variable {c : GatewayConfig} {input : SendInput} {m : Memory} {Q : α → Solo ω → Prop}
  {R : β → Solo ω → Prop}

theorem Spared.messages_eq {i : InstanceId} (spared : Spared i m t) :
    t.memory.messages = m.messages := by
  cases spared with
  | kept memory => rw [memory]
  | lowered _ _ _ memory => rw [memory]

/-- The parts of an approach one after the other. -/
theorem Comes.bind {x : ExceptT SendFailure Program α} {f : α → ExceptT SendFailure Program β}
    (hx : (Solo.setting outside).Ensures (Comes c input m Q) x.run s)
    (hf : ∀ a t, t.memory = m → Q a t →
      (Solo.setting outside).Ensures (Comes c input m R) (f a).run t) :
    (Solo.setting outside).Ensures (Comes c input m R) (x >>= f).run s := by
  refine hx.bindExcept (fun a t _ hQ => ?_) fun failure t _ hQ => hQ
  obtain ⟨memory, hQ⟩ := hQ t rfl
  exact hf a t memory hQ

/-- A part that cannot fail. -/
theorem Comes.bindLift {p : Program α} {f : α → ExceptT SendFailure Program β}
    (hp : (Solo.setting outside).Ensures (fun a t => t.memory = m ∧ Q a t) p s)
    (hf : ∀ a t, t.memory = m → Q a t →
      (Solo.setting outside).Ensures (Comes c input m R) (f a).run t) :
    (Solo.setting outside).Ensures (Comes c input m R)
      ((liftM p : ExceptT SendFailure Program α) >>= f).run s := by
  refine Ensures.bindLift hp fun a t _ hQ => ?_
  obtain ⟨memory, hQ⟩ := hQ t rfl
  exact hf a t memory hQ

/-- A part of which the errors are reasons to stop. -/
theorem Comes.orFail {ε : Type} {p : Program (Except ε α)} {f : ε → SendFailure}
    (hp : (Solo.setting outside).Ensures (fun res t => t.memory = m ∧ (∀ a, res = .ok a → Q a t) ∧
      ∀ e, res = .error e → ∃ d, f e = .of d ∧ Refusal c input m t.log d) p s) :
    (Solo.setting outside).Ensures (Comes c input m Q) (orFail f p).run s := by
  refine Ensures.orFail hp (fun a t _ hQ => ⟨hQ.1, hQ.2.1 a rfl⟩) fun e t _ hQ => ?_
  exact ⟨.kept hQ.1, hQ.2.2 e rfl⟩

theorem ensures_refused {e : DispatchError} (spared : Spared input.owner m s)
    (refusal : Refusal c input m s.log e) :
    (Solo.setting outside).Ensures (Comes c input m Q)
      (throw (.of e) : ExceptT SendFailure Program α).run s := by
  rintro _ rfl
  exact ⟨spared, e, rfl, refusal⟩

/-! ## The checks -/

theorem checkInstance_comes (memory : s.memory = m) : (Solo.setting outside).Ensures
    (Comes c input m fun _ _ => ∃ r, m.instances.find? input.owner = some r ∧ r.isActive = true)
    (checkInstance input.owner).run s := by
  have find : (Solo.setting outside).Ensures
      (fun a t => t.memory = m ∧ a = m.instances.get input.owner) (findInstance input.owner) s := by
    refine ensures_ask fun a t served => ?_
    obtain ⟨rfl, rfl⟩ := Solo.answer_of_some rfl served
    exact ⟨memory, by rw [memory]⟩
  refine Comes.bindLift find fun a t memory hQ => ?_
  subst hQ
  unfold InstanceStore.get
  cases found : m.instances.find? input.owner with
  | none => exact ensures_refused (.kept memory) (.unknown found)
  | some r =>
    dsimp only
    by_cases active : r.isActive = true
    · rw [if_pos active]
      rintro _ rfl
      exact ⟨memory, r, rfl, active⟩
    · rw [if_neg active]
      exact ensures_refused (.kept memory) (.inactive found (by simpa using active))

/-- A downgrade writes nothing but instances. -/
theorem downgrade_spares (i : InstanceId) (memory : s.memory = m) :
    (Solo.setting outside).Ensures (fun _ t => ∃ instances, t.memory = { m with instances })
      (downgrade i) s := by
  have find : (Solo.setting outside).Ensures (fun _ t => t.memory = m) (findInstance i) s := by
    refine ensures_ask fun a t served => ?_
    obtain ⟨-, rfl⟩ := Solo.answer_of_some rfl served
    exact memory
  refine find.bind fun a t _ hQ => ?_
  have memory := hQ t rfl
  cases a with
  | error e => exact ensures_pure fun u hu => by cases hu; exact ⟨m.instances, memory⟩
  | ok r =>
    have update : (Solo.setting outside).Ensures
        (fun _ u => ∃ instances, u.memory = { m with instances })
        (updateInstance { r with status := .error }) t := by
      refine ensures_ask fun b u served => ?_
      cases taken : t.memory.instances.update { r with status := .error } with
      | ok instances =>
        obtain ⟨-, rfl⟩ := Solo.answer_of_some (answer?_updateInstance taken) served
        exact ⟨instances, by rw [memory]⟩
      | error e =>
        have refused : t.memory.answer? (.updateInstance { r with status := .error }) =
            some (.error e, t.memory) := by
          rw [Memory.answer?, taken]
          rfl
        obtain ⟨-, rfl⟩ := Solo.answer_of_some refused served
        exact ⟨m.instances, memory⟩
    exact update.bindBestEffort fun _ u _ hQ => ensures_pure hQ

theorem checkSession_comes {r : Instance} (memory : s.memory = m)
    (found : m.instances.find? input.owner = some r) : (Solo.setting outside).Ensures
    (Comes c input m fun _ _ => True) (checkSession input.owner).run s := by
  have session : (Solo.setting outside).Ensures
      (fun a t => t.memory = m ∧ ⟨.openSession input.owner, a⟩ ∈ t.log)
      (openSession input.owner) s := by
    refine ensures_ask fun a t served => ?_
    obtain ⟨w, rfl⟩ := Solo.answer_of_none rfl served
    exact ⟨memory, List.mem_cons_self⟩
  refine Comes.bindLift session fun a t memory asked => ?_
  have stop (refused : Exchange.isRefusal ⟨.openSession input.owner, a⟩ = true) :
      (Solo.setting outside).Ensures (Comes c input m fun _ _ => True)
        (do
          downgrade input.owner
          throw (.of (.notConnected input.owner)) : ExceptT SendFailure Program Unit).run t := by
    have lowered : (Solo.setting outside).Ensures _ (downgrade input.owner) t :=
      (downgrade_spares input.owner memory).and (Solo.ensures_suffix _)
    refine lowered.bindLift fun _ u _ hQ => ?_
    obtain ⟨⟨instances, memory⟩, suffix⟩ := hQ u rfl
    have asked := suffix.subset asked
    exact ensures_refused (.lowered found asked refused memory) (.disconnected found asked refused)
  cases a with
  | error e => exact stop rfl
  | ok session =>
    dsimp only
    by_cases loggedIn : session.loggedIn = true
    · rw [if_pos loggedIn]
      rintro _ rfl
      exact ⟨memory, trivial⟩
    · rw [if_neg loggedIn]
      exact stop (by simp [Exchange.isRefusal, loggedIn])

/-! ## The preparation -/

/-- A wait that ends without a session has looked at one that was not ready. -/
theorem awaitReady_comes (c : DispatchConfig) (i : InstanceId) (memory : s.memory = m) :
    (Solo.setting outside).Ensures
      (fun res t => t.memory = m ∧ ∀ e, res = .error e →
        e = .sessionUnavailable i ∧ ⟨.sessionReady i, false⟩ ∈ t.log) (awaitReady c i) s := by
  have looked (start : Nat) {u : Solo ω} : (Solo.setting outside).Ensures
      (fun ready t => ready = false → ⟨.sessionReady i, false⟩ ∈ t.log)
      (lookUntilReady c i start c.looks false) u := by
    unfold DispatchConfig.looks lookUntilReady
    -- the first look decides, since later ones come only after it
    have look : (Solo.setting outside).Ensures (fun ready t => ⟨.sessionReady i, ready⟩ ∈ t.log)
        (sessionReady i) u := by
      refine ensures_ask fun ready t served => ?_
      rw [Solo.log_of_answer served]
      exact List.mem_cons_self
    refine look.bind fun ready t _ hQ => ?_
    have seen := hQ t rfl
    cases ready with
    | true => exact ensures_pure fun _ _ eq => by cases eq
    | false => exact (Solo.ensures_suffix _).mono fun _ _ _ suffix _ => suffix.subset seen
  have waited : (Solo.setting outside).Ensures
      (fun res t => ∀ e, res = .error e →
        e = .sessionUnavailable i ∧ ⟨.sessionReady i, false⟩ ∈ t.log) (awaitReady c i) s := by
    refine (ensures_of_run trivial).bind (Q := fun _ _ => True) fun start u _ _ => ?_
    refine (looked start).bind fun ready v _ hQ => ?_
    have seen := hQ v rfl
    cases ready with
    | true => exact ensures_pure fun _ _ _ eq => by cases eq
    | false =>
      rintro _ rfl e ⟨⟩
      exact ⟨rfl, seen rfl⟩
  have unread : (Solo.setting outside).Ensures (fun _ t => t.memory = s.memory)
      (awaitReady c i) s := Solo.ensures_unread (awaitReady_only rfl rfl rfl fun _ => rfl)
  refine (unread.and waited).mono fun res t _ hQ => ?_
  exact ⟨hQ.1.trans memory, hQ.2⟩

/-- A destination resolves if it says whom it means, whatever the network answers. -/
theorem resolve_ends (c : ResolverConfig) (i : InstanceId) (raw : String) :
    (resolve c i raw).Ends fun
      | .ok _ => ∃ d, Destination.normalize c raw = .ok d
      | .error e => Destination.normalize c raw = .error e := by
  unfold resolve
  split
  · next e normal => exact normal
  · next address normal => exact ⟨_, normal⟩
  · next digits normal =>
    refine (ends_of_forall (R := fun _ => True) (fun _ => trivial) _).bind fun results _ => ?_
    cases results with
    | ok results => exact ⟨_, normal⟩
    | error e => exact ⟨_, normal⟩

theorem uploadMedia_comes (memory : s.memory = m)
    (valid : input.content.validate = .ok ()) : (Solo.setting outside).Ensures
    (Comes c input m fun uploaded _ => input.content.media? = none ∨ uploaded.isSome = true)
    (uploadMedia input.owner input.content).run s := by
  unfold uploadMedia
  split
  · next text =>
    rintro _ rfl
    exact ⟨memory, .inl text⟩
  · next media category file =>
    have asked : (Solo.setting outside).Ensures
        (fun res t => t.memory = m ∧ ⟨.upload input.owner media.data category, res⟩ ∈ t.log)
        (upload input.owner media.data category) s := by
      refine ensures_ask fun a t served => ?_
      obtain ⟨w, rfl⟩ := Solo.answer_of_none rfl served
      exact ⟨memory, List.mem_cons_self⟩
    rw [map_eq_pure_bind]
    refine asked.bindOrFail (fun uploaded t _ hQ => ?_) fun e t _ hQ => ?_
    · rintro _ rfl
      exact ⟨(hQ t rfl).1, .inr rfl⟩
    · exact ⟨.kept hQ.1, .upload e, rfl, .unloaded valid file hQ.2⟩

/-- Content without a file needs no upload, and other content has one. -/
theorem exists_build_eq_ok {content : Content} {uploaded : Option UploadResult}
    (enough : content.media? = none ∨ uploaded.isSome = true) (time : Timestamp)
    (words : List UInt64) : ∃ o, content.build uploaded time words = .ok o := by
  cases content with
  | text body => exact ⟨_, rfl⟩
  | image | video | audio | document =>
    rcases enough with none | some
    · cases none
    · obtain ⟨u, rfl⟩ := Option.isSome_iff_exists.1 some
      exact ⟨_, rfl⟩

theorem prepare_comes (memory : s.memory = m)
    (known : ∃ r, m.instances.find? input.owner = some r ∧ r.isActive = true) :
    (Solo.setting outside).Ensures
      (Comes c input m fun r t => Approved c input m t.log r.1 r.2) (prepare c input).run s := by
  unfold prepare
  refine Comes.bind (Q := fun _ _ => True) (Comes.orFail ?_) fun _ t memory _ => ?_
  · refine (awaitReady_comes c.dispatch input.owner memory).mono fun res t _ hQ => ?_
    refine ⟨hQ.1, fun _ _ => trivial, fun e he => ?_⟩
    obtain ⟨rfl, looked⟩ := hQ.2 e he
    exact ⟨_, rfl, .unready known.choose_spec.1 looked⟩
  refine Comes.bind (Q := fun address u => ∃ calls, calls <:+: u.log ∧
    (resolve c.resolver input.owner input.recipient).Made calls (.done (.ok address)))
    (Comes.orFail ?_) fun address u memory resolved => ?_
  · have unread : (Solo.setting outside).Ensures (fun _ u => u.memory = t.memory)
        (resolve c.resolver input.owner input.recipient) t :=
      Solo.ensures_unread (resolve_only (fun _ => rfl) _)
    refine ((unread.and (Solo.ensures_made _)).ends (resolve_ends _ _ _)).mono ?_
    rintro res u - ⟨⟨same, calls, log, made⟩, ends⟩
    refine ⟨same.trans memory, ?_, ?_⟩
    · rintro address rfl
      exact ⟨calls, ⟨[], t.log, by rw [log]; rfl⟩, made⟩
    · rintro e rfl
      exact ⟨_, rfl, .nowhere ends⟩
  obtain ⟨calls, within, made⟩ := resolved
  suffices rest : (Solo.setting outside).Ensures
      (Comes c input m fun (r : Address × Outbound) _ => r.1 = address ∧
        input.content.validate = .ok () ∧
        ∃ uploaded time words, input.content.build uploaded time words = .ok r.2) _ u by
    refine (rest.and (Solo.ensures_suffix _)).mono fun res v _ ⟨comes, suffix⟩ => ?_
    cases res with
    | error failure => exact comes
    | ok r =>
      obtain ⟨memory, rfl, valid, built⟩ := comes
      exact ⟨memory, known, ⟨calls, within.trans suffix.isInfix, made⟩, valid, built⟩
  refine Comes.bind (Q := fun _ _ => input.content.validate = .ok ()) (Comes.orFail ?_)
    fun _ v memory valid => ?_
  · rintro _ rfl
    exact ⟨memory, fun _ valid => valid, fun e invalid => ⟨e, rfl, .invalid invalid⟩⟩
  refine Comes.bind (uploadMedia_comes memory valid) fun uploaded w memory enough => ?_
  have clock : (Solo.setting outside).Ensures (fun _ t => t.memory = m ∧ True) now w :=
    (Solo.ensures_unread (only_request rfl)).mono fun _ _ _ same => ⟨same.trans memory, trivial⟩
  refine Comes.bindLift clock fun time w' memory _ => ?_
  have drawn : (Solo.setting outside).Ensures (fun _ t => t.memory = m ∧ True)
      (waveformWords input.content) w' :=
    (Solo.ensures_unread (waveformWords_only (fun _ => rfl) _)).mono fun _ _ _ same =>
      ⟨same.trans memory, trivial⟩
  refine Comes.bindLift drawn fun words w'' memory _ => ?_
  obtain ⟨o, built⟩ := exists_build_eq_ok enough time words
  rw [built]
  rintro _ rfl
  exact ⟨memory, rfl, valid, uploaded, time, words, built⟩

/-- **An approach ends with a refusal or an approval.** -/
theorem ensures_approach (c : GatewayConfig) (input : SendInput) (s : Solo ω) :
    (Solo.setting outside).Ensures
      (Comes c input s.memory fun r t => Approved c input s.memory t.log r.1 r.2)
      (approach c input).run s := by
  refine Comes.bind (checkInstance_comes rfl) fun _ t memory known => ?_
  refine Comes.bind (checkSession_comes memory known.choose_spec.1) fun _ u memory _ => ?_
  exact prepare_comes memory known

end Dispatch

end MessageGateway
