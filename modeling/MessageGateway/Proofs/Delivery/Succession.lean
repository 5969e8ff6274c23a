import MessageGateway.Proofs.Delivery.Alone

/-!
# Operations in turn

When operations do not overlap, a duplicate does no harm. A message is transmitted by one of them at
most, since its delivery is over afterwards, however the transmission was answered. Whatever comes
later leaves the record as it is, and a send or an event for it makes no more than one look.

## Main definitions

* `Delivery.attempts t`: the messages that were transmitted, or tried to be
* `Delivery.inTurn`: operations one after the other
* `Delivery.Turn`: what the calls of one operation come to
* `Delivery.Orderly`: what was transmitted, was transmitted once and is over

## Main results

* `Delivery.Operated.turn`, `Delivery.Orderly.next`: a single operation
* `Delivery.attempted_once`: any number of them
-/

namespace MessageGateway

open Program Setting

variable {ω : Type} {outside : (c : Call) → ω → c.Answer × ω} {s t : Solo ω}

namespace Delivery

variable {c : GatewayConfig} {m : Memory} {x : MessageId} {r : Message} {key : Option MessageId}
  {old new : MessageStore} {calls : Trace}

/-! ## Attempts -/

/-- The messages that were transmitted, or tried to be, last one first. A transmission is of the
message of which the record was stored last before it. -/
def attempts : Trace → List (Option MessageId)
  | [] => []
  | e :: t =>
    if e.call.isTransmission = true then (Conduct.written? t).map Message.id :: attempts t
    else attempts t

theorem attempts_append {t : Trace} (h : ∀ e ∈ calls, e.call.isTransmission = false) :
    attempts (calls ++ t) = attempts t := by
  induction calls with
  | nil => rfl
  | cons e calls ih =>
    obtain ⟨untransmitted, rest⟩ := List.forall_mem_cons.1 h
    rw [List.cons_append, attempts, if_neg (by simp [untransmitted]), ih rest]

theorem attempts_append_idle {t : Trace} (h : ∀ e ∈ calls, e.Idle) :
    attempts (calls ++ t) = attempts t :=
  attempts_append fun e he => (h e he).untransmitted

/-! ## What an operation comes to -/

/-- Before, the delivery of the message was not over, and afterwards it is. -/
structure Closes (x : MessageId) (old new : MessageStore) : Prop where
  before : ∀ r, old.find? x = some r → r.status.isTerminal = false
  after : ∃ r, new.find? x = some r ∧ r.status.isTerminal = true

/-- What the calls of an operation that was given the name `key` come to, from the messages `old` to
the messages `new`. -/
structure Turn (key : Option MessageId) (old new : MessageStore) (calls : Trace) : Prop where
  /-- What is over stays as it is. -/
  kept : ∀ x r, old.find? x = some r → r.status.isTerminal = true → new.find? x = some r
  /-- One message is transmitted at most, that of the name, and its delivery is over then. -/
  tried : (∀ t, attempts (calls ++ t) = attempts t) ∨ ∃ x, Closes x old new ∧
    (∀ y, key = some y → x = y) ∧ ∀ t, attempts (calls ++ t) = some x :: attempts t
  /-- If the delivery of the name is over, nothing is asked but the message store. -/
  silent : ∀ x r, key = some x → old.find? x = some r → r.status.isTerminal = true →
    ∀ e ∈ calls, e.call.ofMessages = true

/-- A record that is rewritten while its delivery is not over leaves what is over as it is. -/
theorem kept_of_rewritten {r' : Message}
    (messages : ∀ y, new.find? y = if y = x then some r' else old.find? y)
    (notOver : ∀ r, old.find? x = some r → r.status.isTerminal = false) :
    ∀ y r, old.find? y = some r → r.status.isTerminal = true → new.find? y = some r := by
  intro y r found ended
  rw [messages]
  by_cases hy : y = x
  · subst hy
    simp [notOver r found] at ended
  · rw [if_neg hy, found]

end Delivery

namespace Dispatch

open Delivery

variable {c : GatewayConfig} {m : Memory} {input : SendInput} {address : Address} {o : Outbound}
  {x : MessageId} {r r' : Message} {messages : MessageStore} {entry : Trace}
  {a : Except TransportError Unit} {res : Except SendFailure Message}

theorem Entered.written?_eq (h : Entered input o messages r entry) (t : Trace) :
    Conduct.written? (entry ++ t) = some r := by
  cases h <;> rfl

theorem Entered.untransmitted (h : Entered input o messages r entry) :
    ∀ e ∈ entry, e.call.isTransmission = false := by
  cases h <;> simp [Call.isTransmission]

/-- A delivery transmits its message once: the record that is stored last before the transmission is
the one that was entered. -/
theorem Delivered.attempts_eq (delivered : Delivered input address o s r a r' t)
    (idle : ∀ e ∈ s.log, e.Idle) (u : Trace) :
    attempts (t.log ++ u) = some r.id :: attempts u := by
  obtain ⟨entry, time, entered, -, log⟩ := delivered.calls
  rw [log, List.append_assoc, List.append_assoc]
  -- what stands on top of the transmission stores the end of the delivery, and is passed over
  show ((Conduct.written? (entry ++ (s.log ++ u))).map Message.id) ::
    attempts (entry ++ (s.log ++ u)) = _
  rw [entered.written?_eq, attempts_append entered.untransmitted, attempts_append_idle idle]
  rfl

/-- A delivery is over when its message was transmitted. -/
theorem Delivered.isTerminal (delivered : Delivered input address o s r a r' t) :
    r'.status.isTerminal = true := by
  obtain ⟨entry, time, -, eq, -⟩ := delivered.calls
  rw [eq]
  exact isTerminal_outcome a

theorem Delivered.turn (delivered : Delivered input address o s r a r' t)
    (idle : ∀ e ∈ s.log, e.Idle)
    (due : ∀ x r, input.id = some x → s.memory.messages.find? x = some r →
      r.status.isTerminal = false) :
    Turn input.id s.memory.messages t.memory.messages t.log := by
  obtain ⟨entry, time, entered, -, -⟩ := delivered.calls
  refine ⟨kept_of_rewritten delivered.messages fun _ => entered.notOver, ?_, ?_⟩
  · refine .inr ⟨r.id, ⟨fun _ => entered.notOver, r', ?_, delivered.isTerminal⟩,
      fun y => entered.eq_of_key, delivered.attempts_eq idle⟩
    rw [delivered.messages, if_pos rfl]
  · intro x r key found ended
    simp [due x r key found] at ended

/-- A send for a delivery that is over makes no more than one look. -/
theorem Course.silent (course : Course c input m res t) (key : input.id = some x)
    (found : m.messages.find? x = some r) (ended : r.status.isTerminal = true) :
    ∀ e ∈ t.log, e.call.ofMessages = true := by
  have notDue (due : Due input m) : False := by
    have notOver := due.notOver x r key found
    simp [notOver] at ended
  cases course with
  | incomplete _ _ calls =>
    rw [calls]
    exact List.forall_mem_nil _
  | ended _ _ _ _ calls =>
    rw [calls]
    exact List.forall_mem_singleton.2 rfl
  | refused due => exact (notDue due).elim
  | clashed due => exact (notDue due).elim
  | delivered _ due => exact (notDue due).elim

/-- A send that leaves the messages alone and transmits nothing. -/
theorem Course.turn_of_untransmitted (course : Course c input m res t)
    (messages : t.memory.messages = m.messages)
    (untransmitted : ∀ e ∈ t.log, e.call.isTransmission = false) :
    Turn input.id m.messages t.memory.messages t.log := by
  refine ⟨fun x r found _ => ?_, .inl fun u => attempts_append untransmitted, fun x r => ?_⟩
  · rw [messages, found]
  · exact course.silent

/-- A send whose new name is taken transmits nothing. -/
theorem Clashed.untransmitted {text : String} (clashed : Clashed input s text t)
    (idle : ∀ e ∈ s.log, e.Idle) : ∀ e ∈ t.log, e.call.isTransmission = false := by
  obtain ⟨r, time, -, log⟩ := clashed.calls
  rw [log]
  exact List.forall_mem_append.2
    ⟨by simp [Call.isTransmission], fun e he => (idle e he).untransmitted⟩

theorem Course.turn (course : Course c input m res t) :
    Turn input.id m.messages t.memory.messages t.log := by
  have same := course
  cases course with
  | incomplete _ memory calls =>
    refine same.turn_of_untransmitted (by rw [memory]) ?_
    rw [calls]
    exact List.forall_mem_nil _
  | ended _ _ _ memory calls =>
    refine same.turn_of_untransmitted (by rw [memory]) ?_
    rw [calls]
    exact List.forall_mem_singleton.2 rfl
  | refused _ spared idle _ =>
    exact same.turn_of_untransmitted spared.messages_eq fun e he => (idle e he).untransmitted
  | clashed _ memory idle clashed =>
    exact same.turn_of_untransmitted (by rw [clashed.memory, memory]) (clashed.untransmitted idle)
  | delivered _ due memory idle _ delivered =>
    rw [← memory] at due ⊢
    exact delivered.turn idle due.notOver

/-- Giving a message up transmits nothing. -/
theorem GivenUp.untransmitted (gaveUp : GivenUp x s t) (idle : ∀ e ∈ s.log, e.Idle) :
    ∀ e ∈ t.log, e.call.isTransmission = false := by
  have before (e : Exchange) (he : e ∈ s.log) := (idle e he).untransmitted
  cases gaveUp with
  | kept _ _ calls =>
    rw [calls]
    exact List.forall_mem_cons.2 ⟨rfl, before⟩
  | failed _ _ _ _ _ calls =>
    rw [calls]
    exact List.forall_mem_append.2 ⟨by simp [Call.isTransmission], before⟩

/-- Giving a message up, after calls that have stored and transmitted nothing. -/
theorem GivenUp.turn (gaveUp : GivenUp x s t) (idle : ∀ e ∈ s.log, e.Idle)
    (silent : ∀ r, s.memory.messages.find? x = some r → r.status.isTerminal = true →
      ∀ e ∈ s.log, e.call.ofMessages = true) :
    Turn (some x) s.memory.messages t.memory.messages t.log := by
  have tried (u : Trace) : attempts (t.log ++ u) = attempts u :=
    attempts_append (gaveUp.untransmitted idle)
  cases gaveUp with
  | kept _ memory calls =>
    rw [memory]
    refine ⟨fun y r found _ => found, .inl tried, ?_⟩
    rintro _ r ⟨⟩ found ended
    rw [calls]
    exact List.forall_mem_cons.2 ⟨rfl, silent r found ended⟩
  | failed found notOver eq messages rest calls =>
    have notOver' (r₀ : Message) (found' : s.memory.messages.find? x = some r₀) :
        r₀.status.isTerminal = false := by
      rw [found] at found'
      cases found'
      exact notOver
    refine ⟨kept_of_rewritten messages notOver', .inl tried, ?_⟩
    rintro _ r₀ ⟨⟩ found' ended
    simp [notOver' r₀ found'] at ended

end Dispatch

namespace Delivery

/-- What leaves out the messages that are there and transmits nothing. -/
theorem turn_of_untransmitted (kept : ∀ x r, old.find? x = some r → new.find? x = some r)
    (untransmitted : ∀ e ∈ calls, e.call.isTransmission = false) : Turn none old new calls := by
  refine ⟨fun x r found _ => kept x r found, .inl fun t => attempts_append untransmitted, ?_⟩
  rintro x r ⟨⟩

theorem Submitted.turn {input : EnqueueInput} {res : Except DispatchError Message}
    (submitted : Submitted input m res t) : Turn none m.messages t.memory.messages t.log := by
  cases submitted with
  | rejected _ memory calls =>
    rw [memory, calls]
    exact turn_of_untransmitted (fun _ _ found => found) (List.forall_mem_nil _)
  | clashed _ memory calls =>
    obtain ⟨r, time, -, calls⟩ := calls
    rw [memory, calls]
    exact turn_of_untransmitted (fun _ _ found => found) (by simp [Call.isTransmission])
  | accepted _ absent _ messages _ calls =>
    rw [calls]
    refine turn_of_untransmitted (fun y r found => ?_) (by simp [Call.isTransmission])
    rw [messages]
    split
    · next hy =>
      rw [hy, absent] at found
      cases found
    · exact found

theorem Swept.untransmitted {batch : Nat} {res : Except StoreError Nat}
    (swept : Swept batch m res t) : ∀ e ∈ t.log, e.call.isTransmission = false := by
  obtain ⟨offers, log, offers_of⟩ := swept.calls
  rw [log]
  refine List.forall_mem_append.2 ⟨fun e he => ?_, List.forall_mem_singleton.2 rfl⟩
  obtain ⟨r, -, a, rfl⟩ := offers_of e he
  rfl

theorem Swept.turn {batch : Nat} {res : Except StoreError Nat} (swept : Swept batch m res t) :
    Turn none m.messages t.memory.messages t.log := by
  refine turn_of_untransmitted (fun x r found => ?_) swept.untransmitted
  rw [swept.rest]
  exact found

theorem Processed.turn {e : QueueEvent} (processed : Processed c e m t) :
    Turn (some e.id) m.messages t.memory.messages t.log := by
  cases processed with
  | unreadable _ memory calls gaveUp =>
    rw [← memory]
    refine gaveUp.turn ?_ fun _ _ _ => ?_
    · rw [calls]
      exact List.forall_mem_nil _
    · rw [calls]
      exact List.forall_mem_nil _
  | sent readable course =>
    rw [← (input_of_event readable).2]
    exact course.turn
  | postponed readable course _ =>
    rw [← (input_of_event readable).2]
    exact course.turn
  | rejected readable course permanent gaveUp =>
    obtain ⟨spared, idle⟩ := spared_of_permanent course permanent
    rw [← spared.messages_eq]
    refine gaveUp.turn idle fun r found ended => ?_
    rw [spared.messages_eq] at found
    exact course.silent (input_of_event readable).2 found ended

/-- **What one operation comes to**, whatever it is. -/
theorem Operated.turn {op : Operation} (operated : Operated c m t op) :
    Turn op.key? m.messages t.memory.messages t.log := by
  cases operated with
  | submit submitted => exact submitted.turn
  | send course => exact course.turn
  | process processed => exact processed.turn
  | sweep swept => exact swept.turn
  | giveUp gaveUp =>
    have turn := gaveUp.turn (List.forall_mem_nil _) fun _ _ _ => List.forall_mem_nil _
    refine ⟨turn.kept, turn.tried.imp_right ?_, ?_⟩
    · rintro ⟨y, closes, -, tried⟩
      exact ⟨y, closes, by rintro _ ⟨⟩, tried⟩
    · rintro y r ⟨⟩

/-! ## One operation after the other -/

/-- What operations leave when they run one after the other. -/
def inTurn (outside : (c : Call) → ω → c.Answer × ω) (c : GatewayConfig) (ops : List Operation)
    (s : Solo ω) : Solo ω :=
  ops.foldl (Operation.after outside c) s

theorem Operation.exists_turn (outside : (c : Call) → ω → c.Answer × ω) (c : GatewayConfig)
    (op : Operation) (s : Solo ω) : ∃ calls, (op.after outside c s).log = calls ++ s.log ∧
      Turn op.key? s.memory.messages (op.after outside c s).memory.messages calls := by
  obtain ⟨t, operated, memory, log⟩ := op.exists_operated outside c s
  rw [memory]
  exact ⟨t.log, log, operated.turn⟩

/-- Every transmission is of a message, no message was transmitted twice, and the delivery of what
was transmitted is over. -/
structure Orderly (s : Solo ω) : Prop where
  named : none ∉ attempts s.log
  once : (attempts s.log).Nodup
  ended : ∀ x, some x ∈ attempts s.log →
    ∃ r, s.memory.messages.find? x = some r ∧ r.status.isTerminal = true

/-- **Every operation keeps the order.** -/
theorem Orderly.next (orderly : Orderly s)
    (turn : Turn key s.memory.messages t.memory.messages calls) (log : t.log = calls ++ s.log) :
    Orderly t := by
  have kept (x : MessageId) (hx : some x ∈ attempts s.log) :
      ∃ r, t.memory.messages.find? x = some r ∧ r.status.isTerminal = true := by
    obtain ⟨r, found, ended⟩ := orderly.ended x hx
    exact ⟨r, turn.kept x r found ended, ended⟩
  rcases turn.tried with same | ⟨x, closes, -, one⟩
  · refine ⟨?_, ?_, fun y hy => kept y ?_⟩
    · rw [log, same]
      exact orderly.named
    · rw [log, same]
      exact orderly.once
    · rwa [log, same] at hy
  · have fresh : some x ∉ attempts s.log := by
      intro hx
      obtain ⟨r, found, ended⟩ := orderly.ended x hx
      simp [closes.before r found] at ended
    refine ⟨?_, ?_, fun y hy => ?_⟩
    · rw [log, one]
      simp [orderly.named]
    · rw [log, one]
      exact List.nodup_cons.2 ⟨fresh, orderly.once⟩
    · rw [log, one, List.mem_cons] at hy
      rcases hy with hy | hy
      · cases hy
        exact closes.after
      · exact kept y hy

theorem Orderly.run (orderly : Orderly s) (outside : (c : Call) → ω → c.Answer × ω)
    (c : GatewayConfig) (ops : List Operation) : Orderly (inTurn outside c ops s) := by
  induction ops generalizing s with
  | nil => exact orderly
  | cons op ops ih =>
    obtain ⟨calls, log, turn⟩ := op.exists_turn outside c s
    exact ih (orderly.next turn log)

/-- A record of which the delivery is over stays as it is. -/
theorem find?_inTurn (outside : (c : Call) → ω → c.Answer × ω) (c : GatewayConfig)
    (ops : List Operation) (found : s.memory.messages.find? x = some r)
    (ended : r.status.isTerminal = true) :
    (inTurn outside c ops s).memory.messages.find? x = some r := by
  induction ops generalizing s with
  | nil => exact found
  | cons op ops ih =>
    obtain ⟨calls, -, turn⟩ := op.exists_turn outside c s
    exact ih (turn.kept x r found ended)

/-- **Duplicates do no harm in turn.** Whatever operations run one after the other, every
transmission is of a message and no message is transmitted twice, whether that succeeds or fails; an
operation transmits at most one message, and that is the one it names if it names one. Once the
delivery of a message is over, its record is the same after any further operations, and a send or
an event for it asks nothing but the message store. -/
theorem attempted_once (outside : (c : Call) → ω → c.Answer × ω) (c : GatewayConfig) (m : Memory)
    (w : ω) (ops : List Operation) :
    let s := inTurn outside c ops ⟨m, w, []⟩
    none ∉ attempts s.log ∧ (attempts s.log).Nodup ∧
      (∀ op : Operation, attempts (op.after outside c s).log = attempts s.log ∨
        ∃ x, attempts (op.after outside c s).log = some x :: attempts s.log ∧
          ∀ y, op.key? = some y → x = y) ∧
      ∀ x r, s.memory.messages.find? x = some r → r.status.isTerminal = true →
        ∀ further, (inTurn outside c further s).memory.messages.find? x = some r ∧
          ∀ op : Operation, op.key? = some x → ∃ calls,
            (op.after outside c (inTurn outside c further s)).log =
              calls ++ (inTurn outside c further s).log ∧
            ∀ e ∈ calls, e.call.ofMessages = true := by
  intro s
  have start : Orderly (⟨m, w, []⟩ : Solo ω) := by
    refine ⟨List.not_mem_nil, List.nodup_nil, ?_⟩
    rintro x ⟨⟩
  have orderly := start.run outside c ops
  refine ⟨orderly.named, orderly.once, fun op => ?_, fun x r found ended further => ?_⟩
  · obtain ⟨calls, log, turn⟩ := op.exists_turn outside c s
    rcases turn.tried with same | ⟨x, -, named, one⟩
    · exact .inl (by rw [log, same])
    · exact .inr ⟨x, by rw [log, one], named⟩
  · have found' := find?_inTurn outside c further found ended
    refine ⟨found', fun op key => ?_⟩
    obtain ⟨calls, log, turn⟩ := op.exists_turn outside c (inTurn outside c further s)
    exact ⟨calls, log, turn.silent x r key found' ended⟩

/-- The text of the sample is transmitted by the first of three equal events. A sweep among them
changes nothing, and the last of them makes no call but those of the message store. -/
theorem attempted_once_sample :
    let process := Operation.process (.ofMessage Sample.record)
    let s := inTurn Sample.surroundings {} [process] ⟨Sample.memory, 0, []⟩
    let t := inTurn Sample.surroundings {} [process, .sweep 9] s
    let r := { Sample.record with status := .sent }
    attempts s.log = [some r.id] ∧ s.memory.messages.find? r.id = some r ∧
      t.memory.messages.find? r.id = some r ∧
      ∃ calls, (process.after Sample.surroundings {} t).log = calls ++ t.log ∧
        ∀ e ∈ calls, e.call.ofMessages = true := by
  intro process s t r
  have stored : s.memory.messages.find? r.id = some r := by decide
  have once := attempted_once Sample.surroundings {} Sample.memory 0 [process]
  have still := once.2.2.2 r.id r stored rfl [process, .sweep 9]
  exact ⟨by decide, stored, still.1, still.2 process rfl⟩

end Delivery

end MessageGateway
