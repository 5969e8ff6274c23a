import MessageGateway.Proofs.Outbox.Workers

/-!
# Workers on one queue

Any number of workers take events out of one queue, while callers and other tasks put events into
it, fire tokens and close it. Each event that the queue has accepted is in one place: it waits in
the queue, one worker works on it, or one worker has done with it.

## Main definitions

* `Outbox.service`: queue and tokens answer their calls, and the queue may fail
* `Outbox.Member`: a task or a caller
* `Outbox.Step`, `Outbox.Run`: calls, new rounds, the closing of the queue, and workers that leave
  while they look for an event
* `Outbox.Custody`: where a worker stands, and which events it has in its hands

## Main results

* `Outbox.Step.balanced`: no step makes an event, loses one or changes their order
* `Outbox.Custody.step`: a worker has at most one event in its hands, and works on it to the end
* `Outbox.events_accounted`: where the events are
-/

namespace MessageGateway

open Program

/-! ## The queue -/

namespace DeliveryQueue

variable {q : DeliveryQueue} {e : QueueEvent} {es : List QueueEvent}

theorem pop_of_nil (h : q.events = []) : q.pop = (none, q) := by
  rw [pop, h]

theorem pop_of_cons (h : q.events = e :: es) : q.pop = (some e, { q with events := es }) := by
  rw [pop, h]

theorem pass_of_nil (h : q.events = []) :
    q.pass = (if q.isClosed then .refused .closed else .nothing, q) := by
  rw [pass, pop_of_nil h]

theorem pass_of_cons (h : q.events = e :: es) : q.pass = (.taken e, { q with events := es }) := by
  rw [pass, pop_of_cons h]

end DeliveryQueue

theorem TokenBox.anyFired_fire {b : TokenBox} {stops : List Token} (t : Token)
    (fired : b.anyFired stops = true) : (b.fire t).anyFired stops = true := by
  obtain ⟨s, hs, hf⟩ := List.any_eq_true.1 fired
  have hf : s ∈ b.fired := of_decide_eq_true hf
  refine List.any_eq_true.2 ⟨s, hs, decide_eq_true ?_⟩
  unfold TokenBox.fire
  split
  · exact hf
  · exact List.mem_cons_of_mem _ hf

namespace Outbox

variable {c : GatewayConfig} {stops : List Token} {m m' : Memory} {p : Party}

/-! ## The surroundings of a pool -/

/-- What may come of a call that the memory does not answer: the queue may fail, but it does not say
that it is closed, and a pause is stopped only when a token was fired. -/
def Outside (m : Memory) : (call : Call) → call.Answer → Prop
  | .enqueue _, a => ∃ e, a = .error e
  | .passQueue _, a => ∃ text, a = .refused (.failed text)
  | .pause _ stops _, a => a = .stopped → m.tokens.anyFired stops = true
  | .popQueue, _ | .issueToken, _ | .fireToken _, _ | .anyFired _, _ => False
  | _, _ => True

/-- The memory answers, or something outside it, which leaves queue and tokens alone. -/
def service : Service := fun m call a m' =>
  m.answer? call = some (a, m') ∨ Outside m call a ∧ m'.queue = m.queue ∧ m'.tokens = m.tokens

variable {call : Call} {a : call.Answer}

/-- What the memory answers keeps the events, apart from those that it accepts or hands out. -/
theorem queue_of_answer? (h : m.answer? call = some (a, m')) :
    m.queue.events ++ (Exchange.accepted? ⟨call, a⟩).toList =
      (Exchange.taken? ⟨call, a⟩).toList ++ m'.queue.events := by
  cases call with
  | enqueue e =>
    simp only [Memory.answer?, DeliveryQueue.enqueue] at h
    split at h
    · next taken =>
      split at taken <;> cases taken
      cases h
      rfl
    · cases h
      simp [Exchange.accepted?, Exchange.taken?]
  | passQueue =>
    cases waiting : m.queue.events with
    | nil =>
      rw [Memory.answer?, DeliveryQueue.pass_of_nil waiting] at h
      cases h
      cases m.queue.isClosed <;> simp [Exchange.accepted?, Exchange.taken?, waiting]
    | cons e es =>
      rw [Memory.answer?, DeliveryQueue.pass_of_cons waiting] at h
      cases h
      simp [Exchange.accepted?, Exchange.taken?]
  | popQueue =>
    cases waiting : m.queue.events with
    | nil =>
      rw [Memory.answer?, DeliveryQueue.pop_of_nil waiting] at h
      cases h
      simp [Exchange.accepted?, Exchange.taken?, waiting]
    | cons e es =>
      rw [Memory.answer?, DeliveryQueue.pop_of_cons waiting] at h
      cases h
      simp [Exchange.accepted?, Exchange.taken?]
  | createMessage | updateMessage | updateInstance | createPayload | markPayload | finishCycle =>
    simp only [Memory.answer?, Memory.written] at h
    split at h <;> cases h <;> simp [Exchange.accepted?, Exchange.taken?]
  | _ => first | (cases h; simp [Exchange.accepted?, Exchange.taken?]) | cases h

/-- **No call makes an event, loses one or changes their order.** -/
theorem queue_of_service (h : service m call a m') :
    m.queue.events ++ (Exchange.accepted? ⟨call, a⟩).toList =
      (Exchange.taken? ⟨call, a⟩).toList ++ m'.queue.events := by
  rcases h with h | ⟨outside, queue, -⟩
  · exact queue_of_answer? h
  · rw [queue]
    cases call with
    | enqueue e =>
      obtain ⟨err, rfl⟩ := outside
      simp [Exchange.accepted?, Exchange.taken?]
    | passQueue =>
      obtain ⟨text, rfl⟩ := outside
      simp [Exchange.accepted?, Exchange.taken?]
    | popQueue => cases outside
    | _ => simp [Exchange.accepted?, Exchange.taken?]

/-- A token that was fired stays so. -/
theorem anyFired_of_service (h : service m call a m') (fired : m.tokens.anyFired stops = true) :
    m'.tokens.anyFired stops = true := by
  rcases h with h | ⟨-, -, tokens⟩
  · cases call with
    | fireToken t =>
      cases h
      exact TokenBox.anyFired_fire t fired
    | enqueue =>
      simp only [Memory.answer?] at h
      split at h <;> cases h <;> exact fired
    | createMessage | updateMessage | updateInstance | createPayload | markPayload | finishCycle =>
      simp only [Memory.answer?, Memory.written] at h
      split at h <;> cases h <;> exact fired
    | _ => first | (cases h; exact fired) | cases h
  · rw [tokens]
    exact fired

/-- A worker is dismissed only for a token that was fired or for a queue that is closed. -/
theorem dismissed_of_service (h : service m call a m') (search : call.IsSearch stops)
    (dismissal : Exchange.isDismissal ⟨call, a⟩ = true) :
    m.tokens.anyFired stops = true ∨
      ∃ again, (⟨call, a⟩ : Exchange) = ⟨.passQueue again, .refused .closed⟩ := by
  unfold Exchange.isDismissal at dismissal
  split at dismissal
  · next eq =>
    cases eq
    cases search
    rcases h with h | ⟨⟨⟩, -⟩
    rw [Memory.answer?] at h
    exact .inl (congrArg Prod.fst (Option.some.inj h))
  · next eq =>
    cases eq
    cases search
    rcases h with h | ⟨outside, -⟩
    · cases h
    · exact .inl (outside rfl)
  · next again eq => exact .inr ⟨again, eq⟩
  · cases dismissal

/-! ## Members and their steps -/

/-- Who takes part: a task, which goes from round to round until it is over, or a caller with any
program that takes nothing out of the queue. -/
inductive Member where
  /-- A task. -/
  | task (a : Activity)
  /-- A caller. -/
  | caller (program : Program Unit) (untaking : program.Only fun call => call.isTake = false)

/-- The tokens of a worker. -/
def Member.stops? : Member → Option (List Token)
  | .task (.worker stops _) => some stops
  | _ => none

/-- What a member does first. -/
def Member.begin (c : GatewayConfig) : Member → Program (Option Activity)
  | .task a => a.round c
  | .caller program _ => do
    program
    return none

/-- The members before anything has happened. -/
def begin (c : GatewayConfig) (crew : Party → Member) (m : Memory) : System (Option Activity) :=
  System.start (fun p => (crew p).begin c) m

/-- The party `p` goes on with another program. -/
def resume (s : System (Option Activity)) (p : Party) (q : Program (Option Activity)) :
    System (Option Activity) :=
  { s with parties := Function.update s.parties p q }

/-- One thing that happens: a call, a new round of a task, the closing of the queue, or the end of a
worker that is about to try the queue when one of its tokens was fired. -/
inductive Step (c : GatewayConfig) (crew : Party → Member) :
    System (Option Activity) → System (Option Activity) → Prop
  | call {s t : System (Option Activity)} (step : System.Step service s t) : Step c crew s t
  | again {s : System (Option Activity)} {p : Party} {a : Activity}
      (ended : s.parties p = .done (some a)) : Step c crew s (resume s p (a.round c))
  | close {s : System (Option Activity)} :
      Step c crew s { s with memory := { s.memory with queue := s.memory.queue.close } }
  | leave {s : System (Option Activity)} {p : Party} {stops : List Token} {call : Call}
      {next : call.Answer → Program (Option Activity)} (worker : (crew p).stops? = some stops)
      (left : s.parties p = .ask call next) (take : call.isTake = true)
      (fired : s.memory.tokens.anyFired stops = true) : Step c crew s (resume s p (.done none))

/-- Any number of steps. -/
abbrev Run (c : GatewayConfig) (crew : Party → Member) :
    System (Option Activity) → System (Option Activity) → Prop :=
  Relation.ReflTransGen (Step c crew)

/-! ## The events -/

/-- What `f` tells of the exchanges in the log, first one first. -/
def gathered {β : Type} (f : Exchange → Option β) (log : List Entry) : List β :=
  (log.filterMap fun e => f e.exchange).reverse

theorem gathered_cons {β : Type} (f : Exchange → Option β) (e : Entry) (log : List Entry) :
    gathered f (e :: log) = gathered f log ++ (f e.exchange).toList := by
  cases h : f e.exchange <;> simp [gathered, h]

/-- The events that the queue has accepted. -/
def accepted : List Entry → List QueueEvent :=
  gathered Exchange.accepted?

/-- The events that were taken. -/
def taken : List Entry → List QueueEvent :=
  gathered Exchange.taken?

/-- From the events `es` on, every event that was accepted was taken or waits, in its order. -/
def Balanced (es : List QueueEvent) (s : Scene) : Prop :=
  es ++ accepted s.log = taken s.log ++ s.memory.queue.events

variable {crew : Party → Member} {s t : System (Option Activity)} {es : List QueueEvent}

/-- **No step makes an event, loses one or changes their order.** -/
theorem Step.balanced (step : Step c crew s t) (h : Balanced es s.toScene) :
    Balanced es t.toScene := by
  cases step with
  | again | close | leave => exact h
  | call step =>
    cases step with
    | @call p call next a m left served =>
      show es ++ accepted (⟨p, call, a⟩ :: s.log) =
        taken (⟨p, call, a⟩ :: s.log) ++ m.queue.events
      calc es ++ accepted (⟨p, call, a⟩ :: s.log)
          = (es ++ accepted s.log) ++ (Exchange.accepted? ⟨call, a⟩).toList := by
            rw [accepted, gathered_cons, List.append_assoc]
            rfl
        _ = taken s.log ++ (s.memory.queue.events ++ (Exchange.accepted? ⟨call, a⟩).toList) := by
            rw [h, List.append_assoc]
        _ = taken s.log ++ ((Exchange.taken? ⟨call, a⟩).toList ++ m.queue.events) := by
            rw [queue_of_service served]
        _ = taken (⟨p, call, a⟩ :: s.log) ++ m.queue.events := by
            rw [taken, gathered_cons, List.append_assoc]
            rfl

theorem Run.balanced (run : Run c crew (begin c crew m) s) : Balanced m.queue.events s.toScene := by
  induction run with
  | refl => exact (List.append_nil _)
  | tail _ step ih => exact step.balanced ih

/-! ## Workers -/

/-- Where a worker stands after its calls so far: which events it has done with, and which one it
has in its hands. It looks for an event; or it is somewhere within the work on one; or it has left,
which it does without an event, and only when one of its tokens was fired or the queue was
closed. -/
inductive Custody (c : GatewayConfig) (stops : List Token) (m : Memory) :
    Trace → Program (Option Activity) → List QueueEvent → Option QueueEvent → Prop
  | seeking {t : Trace} {q : Program (Option Activity)} {es : List QueueEvent}
      (worked : Worked c stops t es) (seeks : Seeks c stops q) : Custody c stops m t q es none
  | working {t u : Trace} {x : Exchange} {es : List QueueEvent} {e : QueueEvent}
      {work : Program Unit} (worked : Worked c stops t es) (taken : x.taken? = some e)
      (made : (processEvent c e).Made u work) (unfinished : ∀ a, work ≠ .done a) :
      Custody c stops m (u ++ x :: t) (working stops work) es (some e)
  | left {t : Trace} {es : List QueueEvent} (worked : Worked c stops t es)
      (dismissed : m.tokens.anyFired stops = true ∨
        ∃ again, t.head? = some ⟨.passQueue again, .refused .closed⟩) :
      Custody c stops m t (.done none) es none

namespace Custody

variable {q : Program (Option Activity)} {t u : Trace} {x : Exchange} {e : QueueEvent}
  {held : Option QueueEvent}

/-- The events of a worker are those that it has taken. -/
theorem taken (h : Custody c stops m t q es held) :
    t.filterMap Exchange.taken? = held.toList ++ es := by
  cases h with
  | seeking worked _ => exact worked.taken
  | working worked taken made _ => rw [taken_append made taken, worked.taken]; rfl
  | left worked _ => exact worked.taken

/-- When the work on an event has come to its end, the worker looks for the next one. -/
theorem of_made {work : Program Unit} (worked : Worked c stops t es) (taken : x.taken? = some e)
    (made : (processEvent c e).Made u work) :
    ∃ es held, Custody c stops m (u ++ x :: t) (Outbox.working stops work) es held := by
  cases work with
  | done => exact ⟨_, _, .seeking (.processed worked taken made) ⟨.fetch, rfl⟩⟩
  | ask call next => exact ⟨_, _, .working worked taken made fun _ => nofun⟩

/-- **A call of a worker.** -/
theorem next {next : call.Answer → Program (Option Activity)}
    (h : Custody c stops m t q es held) (asks : q = .ask call next)
    (served : service m call a m') :
    ∃ es held, Custody c stops m' (⟨call, a⟩ :: t) (next a) es held := by
  cases h with
  | seeking worked seeks =>
    subst asks
    obtain ⟨search, rest⟩ := seeks
    have rest := rest a
    split at rest
    · next e taken =>
      rw [rest]
      exact of_made (u := []) worked taken .start
    · next none =>
      have worked := Worked.sought worked search none
      split at rest
      · next dismissal =>
        rw [rest]
        refine ⟨_, _, .left worked ?_⟩
        rcases dismissed_of_service served search dismissal with fired | ⟨again, eq⟩
        · exact .inl (anyFired_of_service served fired)
        · exact .inr ⟨again, congrArg some eq⟩
      · exact ⟨_, _, .seeking worked rest⟩
  | @working t u x es e work worked taken made unfinished =>
    cases work with
    | done => exact absurd rfl (unfinished _)
    | ask call' next' =>
      cases asks
      exact of_made (u := ⟨_, a⟩ :: u) worked taken (made.call a)
  | left => cases asks

/-- **A worker begins the next round without an event.** -/
theorem again {a : Activity} (h : Custody c stops m t q es held) (ended : q = .done (some a)) :
    Custody c stops m t (a.round c) es held := by
  cases h with
  | seeking worked seeks =>
    subst ended
    obtain ⟨phase, eq⟩ := seeks
    cases eq
    exact .seeking worked (workerRound_seeks c stops phase)
  | @working t u x es e work worked taken made unfinished =>
    cases work with
    | done => exact absurd rfl (unfinished _)
    | ask => cases ended
  | left => cases ended

/-- **A worker that leaves before it tries the queue has no event.** -/
theorem leave {next : call.Answer → Program (Option Activity)}
    (h : Custody c stops m t q es held) (asks : q = .ask call next) (take : call.isTake = true)
    (fired : m.tokens.anyFired stops = true) : Custody c stops m t (.done none) es held := by
  cases h with
  | seeking worked seeks => exact .left worked (.inl fired)
  | @working t u x es e work worked taken made unfinished =>
    cases work with
    | done => exact absurd rfl (unfinished _)
    | ask call' next' =>
      cases asks
      have untaking := next_not_isTake made
      rw [take] at untaking
      cases untaking
  | left => cases asks

/-- **A worker leaves without an event, and only when it was told to.** -/
theorem dismissed (h : Custody c stops m t q es held) (ended : q = .done none) :
    held = none ∧ (m.tokens.anyFired stops = true ∨
      ∃ again, t.head? = some ⟨.passQueue again, .refused .closed⟩) := by
  cases h with
  | seeking worked seeks =>
    subst ended
    obtain ⟨phase, eq⟩ := seeks
    cases eq
  | @working t u x es e work worked taken made unfinished =>
    cases work with
    | done => exact absurd rfl (unfinished _)
    | ask => cases ended
  | left worked dismissed => exact ⟨rfl, dismissed⟩

/-- What others do changes nothing for a worker. -/
theorem later (h : Custody c stops m t q es held)
    (keeps : m.tokens.anyFired stops = true → m'.tokens.anyFired stops = true) :
    Custody c stops m' t q es held := by
  cases h with
  | seeking worked seeks => exact .seeking worked seeks
  | working worked taken made unfinished => exact .working worked taken made unfinished
  | left worked dismissed => exact .left worked (dismissed.imp_left keeps)

end Custody

/-! ## All members -/

/-- Where a member stands after its calls so far: all but workers take nothing. -/
def Stands (c : GatewayConfig) (member : Member) (m : Memory) (t : Trace)
    (q : Program (Option Activity)) : Prop :=
  match member.stops? with
  | some stops => ∃ es held, Custody c stops m t q es held
  | none => Untaking q ∧ ∀ x ∈ t, x.call.isTake = false

namespace Stands

variable {member : Member} {q : Program (Option Activity)} {t : Trace}

theorem begin (c : GatewayConfig) (member : Member) (m : Memory) :
    Stands c member m [] (member.begin c) := by
  cases member with
  | task a =>
    cases a with
    | worker stops phase => exact ⟨_, _, .seeking .start (workerRound_seeks c stops phase)⟩
    | sweeper stops due =>
      exact ⟨round_untaking c (a := .sweeper stops due) fun _ _ => nofun, List.forall_mem_nil _⟩
    | cycle i h =>
      exact ⟨round_untaking c (a := .cycle i h) fun _ _ => nofun, List.forall_mem_nil _⟩
  | caller program untaking =>
    refine ⟨⟨Only.bind untaking fun _ => only_pure _, ?_⟩, List.forall_mem_nil _⟩
    exact Ends.bind (ends_of_forall (fun _ => trivial) _) fun _ _ _ _ => nofun

theorem next {next : call.Answer → Program (Option Activity)}
    (h : Stands c member m t (.ask call next)) (served : service m call a m') :
    Stands c member m' (⟨call, a⟩ :: t) (next a) := by
  unfold Stands at h ⊢
  split at h
  · obtain ⟨es, held, custody⟩ := h
    exact custody.next rfl served
  · obtain ⟨untaking, none⟩ := h
    exact ⟨⟨untaking.only.2 a, untaking.ends a⟩, List.forall_mem_cons.2 ⟨untaking.only.1, none⟩⟩

theorem again {a : Activity} (h : Stands c member m t (.done (some a))) :
    Stands c member m t (a.round c) := by
  unfold Stands at h ⊢
  split at h
  · obtain ⟨es, held, custody⟩ := h
    exact ⟨es, held, custody.again rfl⟩
  · obtain ⟨untaking, none⟩ := h
    exact ⟨round_untaking c fun stops phase eq => untaking.ends stops phase (eq ▸ rfl), none⟩

theorem leave {next : call.Answer → Program (Option Activity)}
    (h : Stands c member m t (.ask call next)) (worker : member.stops? = some stops)
    (take : call.isTake = true) (fired : m.tokens.anyFired stops = true) :
    Stands c member m t (.done none) := by
  unfold Stands at h ⊢
  rw [worker] at h ⊢
  obtain ⟨es, held, custody⟩ := h
  exact ⟨es, held, custody.leave rfl take fired⟩

theorem later (h : Stands c member m t q)
    (keeps : ∀ stops, m.tokens.anyFired stops = true → m'.tokens.anyFired stops = true) :
    Stands c member m' t q := by
  unfold Stands at h ⊢
  split at h
  · obtain ⟨es, held, custody⟩ := h
    exact ⟨es, held, custody.later (keeps _)⟩
  · exact h

end Stands

/-- Every member stands where it may stand. -/
def AllStand (c : GatewayConfig) (crew : Party → Member) (s : System (Option Activity)) : Prop :=
  ∀ p, Stands c (crew p) s.memory (System.trace p s.log) (s.parties p)

theorem AllStand.resume {q : Program (Option Activity)} (h : AllStand c crew s)
    (stands : Stands c (crew p) s.memory (System.trace p s.log) q) :
    AllStand c crew (resume s p q) := by
  intro p'
  show Stands c (crew p') s.memory (System.trace p' s.log) (Function.update s.parties p q p')
  by_cases hp : p' = p
  · subst hp
    rwa [Function.update_self]
  · rw [Function.update_of_ne hp]
    exact h p'

/-- **Whatever happens, every member stands where it may stand.** -/
theorem Step.allStand (step : Step c crew s t) (h : AllStand c crew s) : AllStand c crew t := by
  cases step with
  | @again p a ended =>
    have stands := h p
    rw [ended] at stands
    exact h.resume stands.again
  | close => exact fun p => (h p).later fun _ => id
  | @leave p stops call next worker left take fired =>
    have stands := h p
    rw [left] at stands
    exact h.resume (stands.leave worker take fired)
  | call step =>
    cases step with
    | @call q call next a m left served =>
      intro p
      show Stands c (crew p) m (System.trace p (⟨q, call, a⟩ :: s.log))
        (Function.update s.parties q (next a) p)
      have stands := h p
      by_cases hp : p = q
      · subst hp
        rw [left] at stands
        rw [Function.update_self, System.trace_cons_self ⟨p, call, a⟩]
        exact stands.next served
      · rw [Function.update_of_ne hp, System.trace_cons_of_ne (Ne.symm hp)]
        exact stands.later fun _ => anyFired_of_service served

theorem Run.allStand (run : Run c crew (begin c crew m) s) : AllStand c crew s := by
  induction run with
  | refl => exact fun p => .begin c (crew p) m
  | tail _ step ih => exact step.allStand ih

theorem AllStand.custody (h : AllStand c crew s) (worker : (crew p).stops? = some stops) :
    ∃ es held, Custody c stops s.memory (System.trace p s.log) (s.parties p) es held := by
  have stands := h p
  unfold Stands at stands
  rwa [worker] at stands

/-- Only workers take events. -/
theorem AllStand.worker (h : AllStand c crew s) {e : Entry} (he : e ∈ s.log)
    (taken : (e.exchange.taken?).isSome = true) : (crew e.party).stops?.isSome = true := by
  cases worker : (crew e.party).stops? with
  | some stops => rfl
  | none =>
    have stands := h e.party
    unfold Stands at stands
    rw [worker] at stands
    rw [Exchange.taken?_of_not_isTake (stands.2 _ (System.mem_trace.2 ⟨e, he, rfl, rfl⟩))] at taken
    cases taken

/-! ## Where the events are -/

theorem filterMap_trace_cons {β : Type} (f : Exchange → Option β) (e : Entry) (log : List Entry) :
    (System.trace e.party (e :: log)).filterMap f =
      (f e.exchange).toList ++ (System.trace e.party log).filterMap f := by
  rw [System.trace_cons_self]
  cases told : f e.exchange with
  | none => rw [List.filterMap_cons_none told, Option.toList_none, List.nil_append]
  | some b => rw [List.filterMap_cons_some told, Option.toList_some, List.singleton_append]

/-- What is told by the entries of a log is told by the traces of the parties, each of them in its
part. -/
theorem perm_flatMap_trace {β : Type} (f : Exchange → Option β) {parties : List Party}
    (nodup : parties.Nodup) {log : List Entry}
    (within : ∀ e ∈ log, (f e.exchange).isSome = true → e.party ∈ parties) :
    (gathered f log).Perm (parties.flatMap fun p => (System.trace p log).filterMap f) := by
  refine (List.reverse_perm _).trans ?_
  induction log with
  | nil => simp [System.trace]
  | cons e log ih =>
    have ih := ih fun e' he' => within e' (List.mem_cons_of_mem _ he')
    cases told : f e.exchange with
    | none =>
      have same (p : Party) : (System.trace p (e :: log)).filterMap f =
          (System.trace p log).filterMap f := by
        by_cases hp : e.party = p
        · rw [← hp, filterMap_trace_cons, told, Option.toList_none, List.nil_append]
        · rw [System.trace_cons_of_ne hp]
      simpa only [List.filterMap_cons, told, same] using ih
    | some b =>
      obtain ⟨ps, qs, rfl⟩ := List.append_of_mem (within e List.mem_cons_self (by rw [told]; rfl))
      have others {rs : List Party} (h : e.party ∉ rs) :
          (rs.flatMap fun p => (System.trace p (e :: log)).filterMap f) =
            rs.flatMap fun p => (System.trace p log).filterMap f :=
        List.flatMap_congr fun p hp => by
          rw [System.trace_cons_of_ne fun eq => h (eq ▸ hp)]
      have apart := (List.nodup_cons.1 (List.perm_middle.nodup_iff.1 nodup)).1
      rw [List.mem_append, not_or] at apart
      rw [List.flatMap_append, List.flatMap_cons] at ih ⊢
      rw [filterMap_trace_cons, told, others apart.1, others apart.2]
      simp only [List.filterMap_cons, told]
      exact (ih.cons b).trans List.perm_middle.symm

/-- **No event is lost or run twice.** From the events that were in the queue at first, every event
that was accepted was taken or waits in the queue, in its order. A worker is somewhere between two
events, or within the work on one, or it has left, without an event and only because a token of its
own was fired or the queue was closed; and the events of all workers, those in their hands and those
they have done with, are together with what waits in the queue the events that were accepted, each
of them in one place. Once all workers have left, nothing is in their hands. -/
theorem events_accounted (run : Run c crew (begin c crew m) s) :
    m.queue.events ++ accepted s.log = taken s.log ++ s.memory.queue.events ∧
    ∃ (completed : Party → List QueueEvent) (held : Party → Option QueueEvent),
      (∀ p stops, (crew p).stops? = some stops →
        Custody c stops s.memory (System.trace p s.log) (s.parties p) (completed p) (held p) ∧
        (s.parties p = .done none → held p = none ∧ (s.memory.tokens.anyFired stops = true ∨
          ∃ again, (System.trace p s.log).head? = some ⟨.passQueue again, .refused .closed⟩))) ∧
      ∀ workers : List Party, workers.Nodup →
        (∀ p, p ∈ workers ↔ (crew p).stops?.isSome = true) →
        (m.queue.events ++ accepted s.log).Perm (s.memory.queue.events ++
          workers.flatMap fun p => (held p).toList ++ completed p) ∧
        ((∀ p ∈ workers, s.parties p = .done none) →
          (m.queue.events ++ accepted s.log).Perm
            (s.memory.queue.events ++ workers.flatMap completed)) := by
  have balanced : m.queue.events ++ accepted s.log = taken s.log ++ s.memory.queue.events :=
    Run.balanced run
  have allStand := Run.allStand run
  refine ⟨balanced, ?_⟩
  have stands (p : Party) : ∃ es held, ∀ stops, (crew p).stops? = some stops →
      Custody c stops s.memory (System.trace p s.log) (s.parties p) es held := by
    cases worker : (crew p).stops? with
    | none => exact ⟨[], none, fun _ => nofun⟩
    | some stops =>
      obtain ⟨es, held, custody⟩ := allStand.custody worker
      refine ⟨es, held, ?_⟩
      rintro _ ⟨⟩
      exact custody
  choose completed held custody using stands
  refine ⟨completed, held, fun p stops worker =>
    ⟨custody p stops worker, (custody p stops worker).dismissed⟩, fun workers nodup members => ?_⟩
  have within : ∀ e ∈ s.log, (e.exchange.taken?).isSome = true → e.party ∈ workers :=
    fun e he taken => (members _).2 (allStand.worker he taken)
  have shared : (workers.flatMap fun p => (System.trace p s.log).filterMap Exchange.taken?) =
      workers.flatMap fun p => (held p).toList ++ completed p :=
    List.flatMap_congr fun p hp => by
      obtain ⟨stops, worker⟩ := Option.isSome_iff_exists.1 ((members p).1 hp)
      exact (custody p stops worker).taken
  have accounted : (m.queue.events ++ accepted s.log).Perm (s.memory.queue.events ++
      workers.flatMap fun p => (held p).toList ++ completed p) := by
    rw [balanced, ← shared]
    exact List.perm_append_comm.trans ((perm_flatMap_trace _ nodup within).append_left _)
  refine ⟨accounted, fun ended => ?_⟩
  have free : (workers.flatMap fun p => (held p).toList ++ completed p) =
      workers.flatMap completed :=
    List.flatMap_congr fun p hp => by
      obtain ⟨stops, worker⟩ := Option.isSome_iff_exists.1 ((members p).1 hp)
      rw [((custody p stops worker).dismissed (ended p hp)).1]
      rfl
  rwa [free] at accounted

/-! ## A sample run -/

namespace Sample

/-- An event that asks for nothing that could be sent. -/
def event (n : Nat) : QueueEvent :=
  ⟨⟨n⟩, ⟨"A"⟩, "fax", [], ⟨0, 0⟩⟩

/-- A clock that stands still. -/
def clock? : (call : Call) → Option call.Answer
  | .elapsed => some (0 : Nat)
  | _ => none

def answer? (call : Call) (m : Memory) : Option (call.Answer × Memory) :=
  (m.answer? call).or ((clock? call).map (·, m))

theorem service_of_answer? (call : Call) (m : Memory) (a : call.Answer) (m' : Memory)
    (h : answer? call m = some (a, m')) : service m call a m' := by
  cases answered : m.answer? call with
  | some b =>
    rw [answer?, answered, Option.some_or] at h
    rw [h] at answered
    exact .inl answered
  | none =>
    rw [answer?, answered, Option.none_or, Option.map_eq_some_iff] at h
    obtain ⟨b, clock, eq⟩ := h
    cases eq
    cases call with
    | elapsed => exact .inr ⟨trivial, rfl, rfl⟩
    | _ => cases clock

/-- The first party is a worker. The second one puts three events into the queue and then fires the
worker's token, and the others do nothing. -/
def members : Party → Member
  | 0 => .task (.worker [⟨0⟩] .fetch)
  | 1 => .caller (do
      let _ ← enqueue (event 1)
      let _ ← enqueue (event 2)
      let _ ← enqueue (event 3)
      fireToken ⟨0⟩)
    ⟨rfl, fun _ => ⟨rfl, fun _ => ⟨rfl, fun _ => ⟨rfl, fun _ => trivial⟩⟩⟩⟩
  | _ => .caller (pure ()) trivial

/-- The worker begins a new round. -/
def again (s : System (Option Activity)) : System (Option Activity) :=
  resume s 0 (workerRound {} [⟨0⟩] .fetch)

/-- The worker has done with the first event. -/
def first : System (Option Activity) :=
  System.play answer? [1, 1, 1, 0, 0, 0, 0] (begin {} members { tokens := ⟨1, []⟩ })

/-- The token was fired within the work on the second one. -/
def second : System (Option Activity) :=
  System.play answer? [0, 0, 0, 1, 0] (again first)

/-- The worker has left, and the third one waits. -/
def third : System (Option Activity) :=
  System.play answer? [0] (again second)

theorem run_third : Run {} members (begin {} members { tokens := ⟨1, []⟩ }) third := by
  have calls (schedule : List Party) (s : System (Option Activity)) :
      Run {} members s (System.play answer? schedule s) :=
    (System.run_play service_of_answer? schedule s).lift id fun _ _ => .call
  have next {s : System (Option Activity)}
      (ended : s.parties 0 = .done (some (.worker [⟨0⟩] .fetch))) : Run {} members s (again s) :=
    .single (.again ended)
  have before : Run {} members (begin {} members { tokens := ⟨1, []⟩ }) (again second) :=
    (calls _ _).trans ((next rfl).trans ((calls _ _).trans (next rfl)))
  exact before.trans (calls _ _)

end Sample

/-- In the sample run the worker has left, and it has done with the first two events; the third one
waits. -/
theorem events_accounted_sample : ∃ completed : List QueueEvent,
    Custody {} [⟨0⟩] Sample.third.memory (System.trace 0 Sample.third.log) (.done none)
      completed none ∧
    [Sample.event 1, Sample.event 2, Sample.event 3].Perm (Sample.event 3 :: completed) := by
  obtain ⟨-, completed, held, custody, shared⟩ := events_accounted Sample.run_third
  obtain ⟨custody, left⟩ := custody 0 [⟨0⟩] rfl
  have workers : ∀ p, p ∈ [0] ↔ (Sample.members p).stops?.isSome = true := by
    rintro (_ | _ | p)
    · decide
    · decide
    · exact ⟨by simp, nofun⟩
  have ended : ∀ p ∈ [0], Sample.third.parties p = .done none := by
    rintro p hp
    rw [List.mem_singleton.1 hp]
    rfl
  rw [(left rfl).1] at custody
  have accounted := (shared [0] (by decide) workers).2 ended
  rw [List.flatMap_singleton] at accounted
  exact ⟨completed 0, custody, accounted⟩

end Outbox

end MessageGateway
