import MessageGateway.Proofs.Delivery.Bookkeeping
import MessageGateway.Proofs.Delivery.Listing

/-!
# How the work on an event leaves its record

The work on an event runs alone on a message store, and everything else answers as it likes:
instances, sessions and network, the clock, even the store of instances. The record of the event is
left in one of five ways. A delivery that is over stays so; what was transmitted is told by its
record; what can never be sent is given up, if there is something to give up; and after any other
failure the record waits as before.

## Main definitions

* `Archive`, `Archive.answer`: a message store, and everything else
* `Archive.Still`, `Archive.Wrote`: a store that was left alone, and one in which a record was
  written
* `Archive.Attempt`, `Archive.GaveUp`: how a send and a try to give a message up end
* `Delivery.attempt`: what the work on an event comes to before the message may be given up
* `Delivery.Exit`: how the work on an event leaves its record

## Main results

* `Archive.ensures_attempt`, `Archive.ensures_gaveUp`: the parts of the work
* `Delivery.ensures_exit`: the work leaves the record in one of the five ways
* `Delivery.exits_classified`: what follows for all records
-/

namespace MessageGateway

open Program Setting Dispatch

/-! ## Events that cannot be read -/

/-- The content of an event is refused only for a kind that nobody knows. -/
theorem Content.ofEvent_eq_error_iff {e : QueueEvent} {d : DispatchError} :
    Content.ofEvent e = .error d ↔
      MessageKind.parse? (Text.trim e.kind) = none ∧ d = .unsupportedMediaType e.kind := by
  unfold ofEvent ofRequest
  cases MessageKind.parse? (Text.trim e.kind) with
  | none => simp [eq_comm]
  | some kind => cases kind <;> simp

theorem SendInput.ofEvent_eq_error_iff {e : QueueEvent} {d : DispatchError} :
    SendInput.ofEvent e = .error d ↔
      MessageKind.parse? (Text.trim e.kind) = none ∧ d = .unsupportedMediaType e.kind := by
  rw [← Content.ofEvent_eq_error_iff]
  unfold ofEvent
  cases Content.ofEvent e <;> simp [Except.map]

/-! ## A message store and everything else -/

/-- A message store, everything else, and the calls so far. -/
structure Archive (ω : Type) where
  /-- The message records. -/
  messages : MessageStore
  /-- Everything else. -/
  world : ω
  /-- The calls so far, last one first. -/
  log : Trace

namespace Archive

open Delivery (transmitted)

variable {ω α : Type} {outside : (c : Call) → ω → c.Answer × ω} {s t u : Archive ω} {c : Call}
  {a : c.Answer} {r : Message}

/-- The store answers the calls for message records, and everything else answers the others. -/
def answer (outside : (c : Call) → ω → c.Answer × ω) (c : Call) (s : Archive ω) :
    c.Answer × Archive ω :=
  match if c.ofMessages then Memory.answer? c { messages := s.messages } else none with
  | some (a, m) => (a, ⟨m.messages, s.world, ⟨c, a⟩ :: s.log⟩)
  | none => ((outside c s.world).1, ⟨s.messages, (outside c s.world).2,
      ⟨c, (outside c s.world).1⟩ :: s.log⟩)

/-- What surrounds a program that runs alone on a message store. -/
abbrev setting (outside : (c : Call) → ω → c.Answer × ω) : Setting (Archive ω) :=
  alone (answer outside)

/-- The records are the same, and nothing was transmitted. -/
structure Still (s t : Archive ω) : Prop where
  messages : t.messages = s.messages
  untransmitted : transmitted t.log = transmitted s.log

/-- The records are the same but for `r`, and nothing was transmitted. -/
structure Wrote (s : Archive ω) (r : Message) (t : Archive ω) : Prop where
  messages : ∀ x, t.messages.find? x = if x = r.id then some r else s.messages.find? x
  untransmitted : transmitted t.log = transmitted s.log

theorem Still.refl (s : Archive ω) : Still s s :=
  ⟨rfl, rfl⟩

theorem Still.trans (h : Still s t) (h' : Still t u) : Still s u :=
  ⟨h'.messages.trans h.messages, h'.untransmitted.trans h.untransmitted⟩

theorem Still.wrote (h : Still s t) (h' : Wrote t r u) : Wrote s r u :=
  ⟨fun x => by rw [h'.messages, h.messages], h'.untransmitted.trans h.untransmitted⟩

theorem answer_of_some {b : c.Answer} {m : Memory} (own : c.ofMessages = true)
    (h : Memory.answer? c { messages := s.messages } = some (b, m))
    (served : answer outside c s = (a, t)) :
    a = b ∧ t = ⟨m.messages, s.world, ⟨c, b⟩ :: s.log⟩ := by
  rw [answer, if_pos own, h] at served
  cases served
  exact ⟨rfl, rfl⟩

theorem answer_of_foreign (foreign : c.ofMessages = false) (served : answer outside c s = (a, t)) :
    ∃ w, t = ⟨s.messages, w, ⟨c, a⟩ :: s.log⟩ := by
  rw [answer, if_neg (by simp [foreign])] at served
  cases served
  exact ⟨_, rfl⟩

theorem transmitted_cons (quiet : c.isTransmission = false) (t : Trace) :
    transmitted (⟨c, a⟩ :: t) = transmitted t := by
  simp [Delivery.transmitted, quiet]

/-! ## Single calls -/

theorem ensures_ask {Q : c.Answer → Archive ω → Prop}
    (h : ∀ a t, answer outside c s = (a, t) → Q a t) :
    (setting outside).Ensures Q (request c) s := by
  rintro _ rfl
  refine ⟨trivial, ?_⟩
  rintro a u served _ rfl
  exact h a u served

/-- Calls that neither concern message records nor transmit. -/
theorem ensures_aside {p : Program α} (only : p.Only fun c => c.isAside = true) :
    (setting outside).Ensures (fun _ t => Still s t) p s := by
  induction p generalizing s with
  | done a =>
    rintro _ rfl
    exact .refl s
  | ask c next ih =>
    rintro _ rfl
    refine ⟨trivial, fun a u served => ?_⟩
    have foreign : c.ofMessages = false := by
      have aside := only.1
      simp only [Call.isAside, Bool.and_eq_true, Bool.not_eq_true'] at aside
      exact aside.1
    obtain ⟨w, rfl⟩ := answer_of_foreign foreign served
    have first : Still s ⟨s.messages, w, ⟨c, a⟩ :: s.log⟩ :=
      ⟨rfl, transmitted_cons (Call.isTransmission_of_isAside only.1) _⟩
    exact (ih a (only.2 a)).mono fun _ _ _ rest => first.trans rest

theorem ensures_find (x : MessageId) : (setting outside).Ensures
    (fun a t => a = .ok (s.messages.find? x) ∧ Still s t) (findMessage x) s := by
  refine ensures_ask fun a t served => ?_
  obtain ⟨rfl, rfl⟩ := answer_of_some rfl rfl served
  exact ⟨rfl, rfl, transmitted_cons rfl _⟩

theorem ensures_create (absent : s.messages.find? r.id = none) : (setting outside).Ensures
    (fun a t => a = .ok r ∧ Wrote s r t) (createMessage r) s := by
  have taken : s.messages.create r = .ok (s.messages.insert r) := by
    simp [MessageStore.create, Table.contains, absent]
  refine ensures_ask fun a t served => ?_
  obtain ⟨rfl, rfl⟩ := answer_of_some rfl (by rw [Memory.answer?, taken]; rfl) served
  exact ⟨rfl, (MessageStore.find?_of_create taken).2, transmitted_cons rfl _⟩

theorem ensures_update {r₀ : Message} (found : s.messages.find? r.id = some r₀)
    (allowed : r₀.status.allows r.status = true) : (setting outside).Ensures
    (fun a t => a = .ok () ∧ Wrote s r t) (updateMessage r) s := by
  obtain ⟨messages, taken⟩ := MessageStore.exists_update_eq_ok found allowed
  refine ensures_ask fun a t served => ?_
  obtain ⟨rfl, rfl⟩ := answer_of_some rfl (by rw [Memory.answer?, taken]; rfl) served
  exact ⟨rfl, (MessageStore.find?_of_update taken).2, transmitted_cons rfl _⟩

theorem ensures_transmit (i : InstanceId) (address : Address) (o : Outbound) :
    (setting outside).Ensures (fun a t => t.messages = s.messages ∧
      transmitted t.log = ⟨.transmit i address o, a⟩ :: transmitted s.log)
      (transmit i address o) s := by
  refine ensures_ask fun a t served => ?_
  obtain ⟨w, rfl⟩ := answer_of_foreign rfl served
  exact ⟨rfl, rfl⟩

/-- A look at the clock. -/
theorem ensures_now : (setting outside).Ensures (fun _ t => Still s t) now s :=
  ensures_aside (only_request rfl)

variable {input : SendInput} {x : MessageId} {res : Except SendFailure Message}

/-! ## A send -/

/-- How a send for the message `x` ends: it was refused, its delivery had been over, or its message
was transmitted once, and its record tells how that went. -/
inductive Attempt (x : MessageId) (s t : Archive ω) : Except SendFailure Message → Prop
  | refused {failure : SendFailure} (still : s.Still t) : Attempt x s t (.error failure)
  | finished {r : Message} (found : s.messages.find? x = some r)
      (ended : r.status.isTerminal = true) (still : s.Still t) : Attempt x s t (.ok r)
  | delivered {i : InstanceId} {address : Address} {o : Outbound}
      {a : (Call.transmit i address o).Answer} {r : Message}
      (notOver : ∀ r₀, s.messages.find? x = some r₀ → r₀.status.isTerminal = false)
      (status : r.status = outcome a)
      (messages : ∀ y, t.messages.find? y = if y = x then some r else s.messages.find? y)
      (once : transmitted t.log = ⟨.transmit i address o, a⟩ :: transmitted s.log) :
      Attempt x s t (verdict r a)

theorem ensures_existing (x : MessageId) : (setting outside).Ensures
    (fun res t => res = .ok (s.messages.find? x) ∧ s.Still t) (existing (some x)).run s := by
  refine (ensures_find x).orFail (fun known t _ hQ => ?_) fun e t _ hQ => ?_
  · obtain ⟨⟨⟩, still⟩ := hQ
    exact ⟨rfl, still⟩
  · cases hQ.1

/-- The record is entered as being sent. -/
theorem ensures_store (key : input.id = some x)
    (notOver : ∀ r, s.messages.find? x = some r → r.status.isTerminal = false) (o : Outbound) :
    (setting outside).Ensures
      (fun res t => ∃ r, res = .ok r ∧ r.id = x ∧ r.status = .sending ∧ s.Wrote r t)
      (Dispatch.store input (s.messages.find? x) o).run s := by
  refine ensures_now.bindLift fun time t _ hQ => ?_
  have still := hQ t rfl
  cases found : s.messages.find? x with
  | some r₀ =>
    have named := Table.key_of_find? found
    have allowed := MessageStatus.allows_sending (notOver r₀ found)
    simp only [Message.transition, allowed, if_true]
    let r : Message := { r₀ with payload := o.summary, status := .sending, updated := time }
    show (setting outside).Ensures _ (do
      orFail .ofStore (updateMessage r)
      return r : ExceptT SendFailure Program Message).run t
    have there : t.messages.find? r.id = some r₀ := by
      rw [still.messages]
      exact (congrArg _ named).trans found
    refine (ensures_update there allowed).bindOrFail (fun _ u _ hQ => ?_)
      fun e u _ hQ => ?_
    · rintro _ rfl
      exact ⟨r, rfl, named, rfl, still.wrote (hQ u rfl).2⟩
    · cases hQ.1
  | none =>
    dsimp only
    rw [key]
    have absent : t.messages.find? x = none := by rw [still.messages, found]
    refine Ensures.orFail (ensures_create absent) (fun r u _ hQ => ?_) fun e u _ hQ => ?_
    · obtain ⟨⟨⟩, wrote⟩ := hQ
      exact ⟨_, rfl, rfl, rfl, still.wrote wrote⟩
    · cases hQ.1

/-- The record tells how the transmission went. -/
theorem ensures_settle (sending : r.status = .sending) (stored : s.messages.find? r.id = some r)
    (a : Except TransportError Unit) : (setting outside).Ensures
      (fun r' t => r'.id = r.id ∧ r'.status = outcome a ∧ s.Wrote r' t)
      (settle r (outcome a)) s := by
  refine ensures_now.bind fun time t _ hQ => ?_
  have still := hQ t rfl
  have allowed : r.status.allows (outcome a) = true := by
    rw [sending]
    exact MessageStatus.allows_of_isTerminal rfl (isTerminal_outcome a)
  simp only [Message.transition, allowed, if_true]
  let r' : Message := { r with status := outcome a, updated := time }
  show (setting outside).Ensures _ (do
    let _ ← bestEffort (updateMessage r')
    return r') t
  have there : t.messages.find? r'.id = some r := by
    rw [still.messages]
    exact stored
  refine (ensures_update there allowed).bindBestEffort fun _ u _ hQ => ?_
  rintro _ rfl
  exact ⟨rfl, rfl, still.wrote (hQ u rfl).2⟩

theorem ensures_deliver (i : InstanceId) (address : Address) (o : Outbound)
    (sending : r.status = .sending) (stored : s.messages.find? r.id = some r) :
    (setting outside).Ensures
      (fun res t => ∃ (a : (Call.transmit i address o).Answer) (r' : Message),
        res = verdict r' a ∧ r'.status = outcome a ∧
        (∀ y, t.messages.find? y = if y = r.id then some r' else s.messages.find? y) ∧
        transmitted t.log = ⟨.transmit i address o, a⟩ :: transmitted s.log)
      (deliver r i address o).run s := by
  refine (ensures_transmit i address o).bindLift fun a t _ hQ => ?_
  obtain ⟨messages, once⟩ := hQ t rfl
  have settled : (setting outside).Ensures
      (fun r' u => r'.status = outcome a ∧
        (∀ y, u.messages.find? y = if y = r.id then some r' else s.messages.find? y) ∧
        transmitted u.log = ⟨.transmit i address o, a⟩ :: transmitted s.log)
      (settle r (outcome a)) t := by
    rw [← messages] at stored
    refine (ensures_settle sending stored a).mono fun r' u _ hQ => ?_
    obtain ⟨named, status, wrote⟩ := hQ
    refine ⟨status, fun y => ?_, wrote.untransmitted.trans once⟩
    rw [wrote.messages, named, messages]
  cases a with
  | ok _ => exact settled.map fun r' u _ hQ => ⟨.ok (), r', rfl, hQ⟩
  | error e =>
    refine settled.bindLift fun r' u _ hQ => ?_
    rintro _ rfl
    exact ⟨.error e, r', rfl, hQ u rfl⟩

/-- Up to its record a send touches no message record, and it transmits nothing. -/
theorem approach_aside (c : GatewayConfig) (input : SendInput) :
    (approach c input).run.Only fun c => c.isAside = true := by
  refine Only.bindExcept (checkInstance_only rfl) fun _ => ?_
  refine Only.bindExcept (checkSession_only rfl rfl fun _ => rfl) fun _ => ?_
  exact (prepare_only c input).mono fun _ => Call.isAside_of_isPreparation

/-- A look at the message, or an approach, before a send goes on. -/
theorem Attempt.after (attempt : Attempt x t u res) (still : s.Still t) : Attempt x s u res := by
  cases attempt with
  | refused rest => exact .refused (still.trans rest)
  | finished found ended rest => exact .finished (still.messages ▸ found) ended (still.trans rest)
  | delivered notOver status messages once =>
    rw [still.messages] at notOver messages
    rw [still.untransmitted] at once
    exact .delivered notOver status messages once

theorem ensures_conclude (key : input.id = some x)
    (notOver : ∀ r, s.messages.find? x = some r → r.status.isTerminal = false)
    (address : Address) (o : Outbound) : (setting outside).Ensures (fun res t => Attempt x s t res)
      (conclude input (s.messages.find? x) (address, o)).run s := by
  refine (ensures_store key notOver o).bindExcept (fun r t _ hQ => ?_) fun failure t _ hQ => ?_
  · obtain ⟨_, ⟨⟩, rfl, sending, wrote⟩ := hQ t rfl
    have stored : t.messages.find? r.id = some r := by rw [wrote.messages, if_pos rfl]
    refine (ensures_deliver input.owner address o sending stored).mono ?_
    rintro res u - ⟨a, r', rfl, status, messages, once⟩
    refine .delivered notOver status (fun y => ?_) (once.trans (by rw [wrote.untransmitted]))
    rw [messages, wrote.messages]
    by_cases hy : y = r.id
    · rw [if_pos hy, if_pos hy]
    · rw [if_neg hy, if_neg hy, if_neg hy]
  · obtain ⟨_, ⟨⟩, -⟩ := hQ

theorem ensures_proceed (c : GatewayConfig) (key : input.id = some x)
    (notOver : ∀ r, s.messages.find? x = some r → r.status.isTerminal = false) :
    (setting outside).Ensures (fun res t => Attempt x s t res)
      (proceed c input (s.messages.find? x)).run s := by
  rw [proceed_eq]
  have approached : (setting outside).Ensures (fun _ t => s.Still t) (approach c input).run s :=
    ensures_aside (approach_aside c input)
  refine approached.bindExcept (fun (address, o) t _ hQ => ?_) fun failure t _ still =>
    .refused still
  have still := hQ t rfl
  rw [← still.messages] at notOver ⊢
  exact (ensures_conclude key notOver address o).mono fun _ _ _ attempt => attempt.after still

/-- **A send for a message**, alone on its store. -/
theorem ensures_attempt (c : GatewayConfig) (key : input.id = some x) :
    (setting outside).Ensures (fun res t => Attempt x s t res) (send c input) s := by
  unfold send
  split
  · rintro _ rfl
    exact .refused (.refl s)
  · rw [key]
    refine (ensures_existing x).bindExcept (fun known t _ hQ => ?_) fun failure t _ hQ => ?_
    · obtain ⟨⟨⟩, still⟩ := hQ t rfl
      split
      · next r known =>
        obtain ⟨found, ended⟩ := Option.filter_eq_some_iff.1 known
        rintro _ rfl
        exact .finished found ended still
      · next notOver =>
        have notOver : ∀ r, t.messages.find? x = some r → r.status.isTerminal = false := by
          intro r found
          rw [still.messages] at found
          exact Dispatch.notOver_of_filter notOver r found
        rw [← still.messages]
        exact (ensures_proceed c key notOver).mono fun _ _ _ attempt => attempt.after still
    · cases hQ.1

/-! ## Giving up -/

/-- How a try to give the message `x` up ends: there was nothing to give up, or its record tells
that it was given up. -/
inductive GaveUp (x : MessageId) (s t : Archive ω) : Prop
  | kept (ended : ∀ r, s.messages.find? x = some r → r.status.isTerminal = true) (still : s.Still t)
  | failed {r : Message} {time : Timestamp} (found : s.messages.find? x = some r)
      (notOver : r.status.isTerminal = false)
      (wrote : s.Wrote { r with status := .failed, updated := time } t)

theorem GaveUp.after (gaveUp : GaveUp x t u) (still : s.Still t) : GaveUp x s u := by
  cases gaveUp with
  | kept ended rest =>
    rw [still.messages] at ended
    exact .kept ended (still.trans rest)
  | failed found notOver wrote =>
    rw [still.messages] at found
    exact .failed found notOver (still.wrote wrote)

theorem ensures_gaveUp (x : MessageId) :
    (setting outside).Ensures (fun _ t => GaveUp x s t) (failPending x) s := by
  refine (ensures_find x).bindOrFail (fun known t _ hQ => ?_) fun e t _ hQ => ?_
  · obtain ⟨eq, still⟩ := hQ t rfl
    have found : known = s.messages.find? x := Except.ok.inj eq
    cases known with
    | none =>
      rintro _ rfl
      exact .kept (fun r there => by rw [← found] at there; cases there) still
    | some r =>
      dsimp only
      by_cases ended : r.status.isTerminal = true
      · rw [if_pos ended]
        rintro _ rfl
        refine .kept (fun r' there => ?_) still
        rw [← found] at there
        cases there
        exact ended
      · rw [if_neg ended]
        have notOver := Bool.not_eq_true _ ▸ ended
        have allowed := MessageStatus.allows_of_isTerminal notOver (t := .failed) rfl
        have moved : (setting outside).Ensures
            (fun res u => ∃ time, res = .ok { r with status := .failed, updated := time } ∧
              t.Still u) (do return r.transition .failed (← now)) t := by
          refine ensures_now.bind fun time u _ hQ => ?_
          rintro _ rfl
          exact ⟨time, by simp only [Message.transition, allowed, if_true], hQ u rfl⟩
        refine moved.bindOrFail (fun _ u _ hQ => ?_) fun e u _ hQ => ?_
        · obtain ⟨time, ⟨⟩, rest⟩ := hQ u rfl
          let r' : Message := { r with status := .failed, updated := time }
          have there : u.messages.find? r'.id = some r := by
            rw [rest.messages, still.messages]
            exact (congrArg _ (Table.key_of_find? found.symm : r.id = x)).trans found.symm
          refine (ensures_update there allowed).bindOrFail (fun _ v _ hQ => ?_) fun e v _ hQ => ?_
          · rintro _ rfl
            have wrote := (still.trans rest).wrote (hQ v rfl).2
            exact .failed found.symm notOver wrote
          · cases hQ.1
        · obtain ⟨_, ⟨⟩, -⟩ := hQ
  · cases hQ.1

end Archive

namespace Delivery

variable {ω : Type} {outside : (c : Call) → ω → c.Answer × ω} {s t : Archive ω} {c : GatewayConfig}
  {e : QueueEvent} {r : Message} {old new : MessageStore} {log : Trace}
  {res : Except DispatchError Message}

/-! ## The work on an event -/

/-- What the work on an event comes to before the message may be given up: the message that was
sent, or why none was. -/
def attempt (outside : (c : Call) → ω → c.Answer × ω) (c : GatewayConfig) (e : QueueEvent)
    (s : Archive ω) : Except DispatchError Message :=
  match SendInput.ofEvent e with
  | .error d => .error d
  | .ok input => ((send c input).run (Archive.answer outside) s).1.mapError SendFailure.error

/-- How the work on an event turns the message store `old` into `new`, with these calls. -/
inductive Exit (e : QueueEvent) (old new : MessageStore) (log : Trace) :
    Except DispatchError Message → Prop
  | finished {r : Message} (found : old.find? e.id = some r) (ended : r.status.isTerminal = true)
      (untransmitted : transmitted log = []) (same : new = old) : Exit e old new log (.ok r)
  | delivered {i : InstanceId} {address : Address} {o : Outbound}
      {a : (Call.transmit i address o).Answer} {r : Message}
      (notOver : ∀ r₀, old.find? e.id = some r₀ → r₀.status.isTerminal = false)
      (once : transmitted log = [⟨.transmit i address o, a⟩]) (status : r.status = outcome a)
      (messages : ∀ y, new.find? y = if y = e.id then some r else old.find? y) :
      Exit e old new log ((verdict r a).mapError SendFailure.error)
  | gaveUp {d : DispatchError} {r : Message} {time : Timestamp} (permanent : d.kind = .permanent)
      (untransmitted : transmitted log = []) (found : old.find? e.id = some r)
      (notOver : r.status.isTerminal = false)
      (messages : ∀ y, new.find? y = if y = e.id then
        some { r with status := .failed, updated := time } else old.find? y) :
      Exit e old new log (.error d)
  | rejected {d : DispatchError} (permanent : d.kind = .permanent)
      (untransmitted : transmitted log = [])
      (ended : ∀ r, old.find? e.id = some r → r.status.isTerminal = true) (same : new = old) :
      Exit e old new log (.error d)
  | postponed {d : DispatchError} (passing : d.kind ≠ .permanent)
      (untransmitted : transmitted log = []) (same : new = old) : Exit e old new log (.error d)

/-- What is given up leaves with the exit of a rejected event. -/
theorem exit_of_gaveUp {d : DispatchError} (permanent : d.kind = .permanent)
    (fresh : transmitted s.log = []) (gaveUp : s.GaveUp e.id t) :
    Exit e s.messages t.messages t.log (.error d) := by
  cases gaveUp with
  | kept ended still =>
    exact .rejected permanent (still.untransmitted.trans fresh) ended still.messages
  | @failed r time found notOver wrote =>
    have named : r.id = e.id := Table.key_of_find? found
    have messages (y : MessageId) : t.messages.find? y = if y = e.id then
        some { r with status := .failed, updated := time } else s.messages.find? y := by
      rw [wrote.messages, named]
    exact .gaveUp permanent (wrote.untransmitted.trans fresh) found notOver messages

/-- **The work on an event leaves its record in one of five ways.** -/
theorem ensures_exit (outside : (c : Call) → ω → c.Answer × ω) (c : GatewayConfig)
    (e : QueueEvent) (fresh : transmitted s.log = []) :
    (Archive.setting outside).Ensures
      (fun _ t => Exit e s.messages t.messages t.log (attempt outside c e s))
      (processEvent c e) s := by
  have giveUp (u : Archive ω) : (Archive.setting outside).Ensures (fun _ t => u.GaveUp e.id t)
      (do let _ ← bestEffort (failPending e.id) : Program Unit) u :=
    (Archive.ensures_gaveUp e.id).bindBestEffort fun _ t _ hQ => ensures_pure hQ
  unfold processEvent attempt
  cases asked : SendInput.ofEvent e with
  | error d =>
    have permanent : d.kind = .permanent := by
      rw [(SendInput.ofEvent_eq_error_iff.1 asked).2]
      rfl
    exact (giveUp s).mono fun _ t _ gaveUp => exit_of_gaveUp permanent fresh gaveUp
  | ok input =>
    have sent : (Archive.setting outside).Ensures _ (send c input) s :=
      (Archive.ensures_attempt c (input_of_event asked).2).and
        (ensures_of_run (Q := fun res _ =>
          res = ((send c input).run (Archive.answer outside) s).1) rfl)
    refine sent.bind fun res t _ hQ => ?_
    obtain ⟨attempt, eq⟩ := hQ t rfl
    dsimp only
    rw [← eq]
    cases attempt with
    | @refused failure still =>
      have untransmitted := still.untransmitted.trans fresh
      dsimp only
      by_cases permanent : failure.error.kind = .permanent
      · rw [if_pos permanent]
        exact (giveUp t).mono fun _ u _ gaveUp =>
          exit_of_gaveUp permanent fresh (gaveUp.after still)
      · rw [if_neg permanent]
        rintro _ rfl
        exact .postponed permanent untransmitted still.messages
    | finished found ended still =>
      rintro _ rfl
      exact .finished found ended (still.untransmitted.trans fresh) still.messages
    | @delivered i address o a r notOver status messages once =>
      rw [fresh] at once
      have exit : Exit e s.messages t.messages t.log ((verdict r a).mapError SendFailure.error) :=
        .delivered notOver once status messages
      cases a with
      | ok => exact ensures_pure fun _ same => same ▸ exit
      | error =>
        rw [verdict] at exit ⊢
        exact ensures_pure fun _ same => same ▸ exit

/-! ## What follows for all records -/

namespace Exit

variable (exit : Exit e old new log res)
include exit

/-- No other record is touched. -/
theorem others {x : MessageId} (other : x ≠ e.id) : new.find? x = old.find? x := by
  cases exit with
  | finished _ _ _ same | rejected _ _ _ same | postponed _ _ same => rw [same]
  | delivered _ _ _ messages | gaveUp _ _ _ _ messages => rw [messages, if_neg other]

/-- A delivery that is over stays as it is. -/
theorem over_kept (found : old.find? e.id = some r) (ended : r.status.isTerminal = true) :
    new.find? e.id = some r := by
  cases exit with
  | finished _ _ _ same | rejected _ _ _ same | postponed _ _ same => rw [same, found]
  | delivered notOver =>
    rw [notOver r found] at ended
    cases ended
  | gaveUp _ _ found' notOver =>
    rw [found] at found'
    cases found'
    rw [notOver] at ended
    cases ended

/-- A record that is being sent afterwards was being sent before. -/
theorem sending {x : MessageId} (found : new.find? x = some r) (status : r.status = .sending) :
    old.find? x = some r := by
  cases exit with
  | finished _ _ _ same | rejected _ _ _ same | postponed _ _ same => rwa [same] at found
  | @delivered _ _ _ a _ _ _ status' messages =>
    rw [messages] at found
    split at found
    · cases found
      rw [status'] at status
      cases a <;> cases status
    · exact found
  | gaveUp _ _ _ _ messages =>
    rw [messages] at found
    split at found
    · cases found
      cases status
    · exact found

/-- A record whose event was postponed is still found by a query that asks for enough records. -/
theorem pending {d : DispatchError} (failed : res = .error d) (passing : d.kind ≠ .permanent)
    (untransmitted : transmitted log = []) (found : old.find? e.id = some r)
    (notOver : r.status.isTerminal = false) {limit : Nat}
    (enough : new.unfinished.length ≤ limit) : r ∈ new.pending limit := by
  cases exit with
  | finished => cases failed
  | delivered _ once =>
    rw [untransmitted] at once
    cases once
  | gaveUp permanent | rejected permanent =>
    cases failed
    exact absurd permanent passing
  | postponed _ _ same =>
    refine (MessageStore.pending_perm enough).mem_iff.2 (MessageStore.mem_unfinished.2 ?_)
    rw [same, show r.id = e.id from Table.key_of_find? found]
    exact ⟨found, notOver⟩

end Exit

/-- **The work on an event** leaves its record in one of five ways, whatever everything but the
message store does. A delivery that is over stays as it is, and no other record is touched. Nothing
is left as being sent, and what fails for now is still found by a query that asks for enough
records. An event of an unknown kind is rejected for ever. -/
theorem exits_classified (outside : (c : Call) → ω → c.Answer × ω) (c : GatewayConfig)
    (e : QueueEvent) (old : MessageStore) (w : ω) :
    let res := attempt outside c e ⟨old, w, []⟩
    let t := ((processEvent c e).run (Archive.answer outside) ⟨old, w, []⟩).2
    Exit e old t.messages t.log res ∧
    (∀ r, old.find? e.id = some r → r.status.isTerminal = true →
      t.messages.find? e.id = some r) ∧
    (∀ x, x ≠ e.id → t.messages.find? x = old.find? x) ∧
    (∀ x r, t.messages.find? x = some r → r.status = .sending → old.find? x = some r) ∧
    (∀ r d, old.find? e.id = some r → r.status.isTerminal = false → res = .error d →
      d.kind ≠ .permanent → transmitted t.log = [] →
      ∀ limit, t.messages.unfinished.length ≤ limit → r ∈ t.messages.pending limit) ∧
    (MessageKind.parse? (Text.trim e.kind) = none →
      res = .error (.unsupportedMediaType e.kind)) := by
  intro res t
  have left := ensures_exit (s := ⟨old, w, []⟩) outside c e rfl
  have exit : Exit e old t.messages t.log res := run_of_ensures left
  refine ⟨exit, fun r => exit.over_kept, fun x => exit.others, fun x r => exit.sending,
    fun r d found notOver failed passing untransmitted limit => ?_, fun unknown => ?_⟩
  · exact exit.pending failed passing untransmitted found notOver
  · have asked := SendInput.ofEvent_eq_error_iff.2 ⟨unknown, rfl⟩
    show attempt outside c e _ = _
    rw [attempt, asked]

end Delivery

end MessageGateway
