import MessageGateway.Proofs.Outbox.Pool

/-!
# Takers on one queue

Any number of callers put events into one queue and take events out of it, and somebody closes it.
A taker goes from round to round until it has an answer: it tries the queue, and when it finds
nothing it waits until it is woken or its time is up, and then it tries once more. Others act
between any two of its calls, and it may be woken without cause.

## Main definitions

* `Hatch`, `Hatch.Step`, `Hatch.Run`: a queue with its takers, and what happens at it
* `Hatch.accepted`, `Hatch.handedOut`: the events that came and those that left, in their order
* `Hatch.Standing`: where a taker stands
* `Hatch.Lawful`: what each thing that happens says of the queue before and after it

## Main results

* `Hatch.Step.lawful`, `Hatch.Step.stand`: what one step does, and what it preserves
* `Hatch.Run.balanced`, `Hatch.Run.isClosed_iff`: events keep their order, and who closes a queue
* `Hatch.first_in_first_out`: the queue, in every run
-/

namespace MessageGateway

open Program

/-- What a taker is told: an event, nothing in time, or an error. -/
abbrev Haul := Except QueueError (Option QueueEvent)

/-- What a try tells a taker, if it tells anything. -/
def Pass.haul? : Pass → Option Haul
  | .taken e => some (.ok (some e))
  | .refused err => some (.error err)
  | .nothing => none

/-- Somebody who takes an event. -/
structure Taker where
  /-- When it began. -/
  since : Nat
  /-- How long it waits. -/
  timeout : Nat
  /-- What is left of its round. -/
  rest : Program (Option Haul)

/-- When a taker gives up. -/
def Taker.deadline (k : Taker) : Nat :=
  k.since + k.timeout

/-- A memory with a queue, the time, and those who take an event now. -/
structure Hatch where
  /-- The memory. -/
  memory : Memory
  /-- The time. -/
  time : Nat
  /-- The takers, by their numbers. -/
  takers : Party → Option Taker

/-- What can be seen to happen. -/
inductive Happening where
  /-- An event was offered to the queue. -/
  | offered (e : QueueEvent) (a : Except QueueError Unit)
  /-- The queue was closed. -/
  | closed
  /-- Somebody began to take an event. -/
  | asked (p : Party) (timeout : Nat)
  /-- A taker has made a call and has no answer yet. -/
  | tried (p : Party)
  /-- A taker has its answer. -/
  | answered (p : Party) (a : Haul)
  /-- Time went by. -/
  | passed (n : Nat)

namespace Happening

/-- The event that the queue has accepted. -/
def accepted? : Happening → Option QueueEvent
  | .offered e (.ok ()) => some e
  | _ => none

/-- The event that a taker was given. -/
def handed? : Happening → Option QueueEvent
  | .answered _ (.ok (some e)) => some e
  | _ => none

/-- The time that has gone by. -/
def elapsed : Happening → Nat
  | .passed n => n
  | _ => 0

end Happening

namespace Hatch

variable {s t u : Hatch} {m : Memory} {l : Happening} {ls ls' : List Happening} {p : Party}
  {k : Taker} {e : QueueEvent} {es : List QueueEvent} {time deadline : Nat}

/-- The queue before anything has happened. -/
def opening (m : Memory) : Hatch :=
  ⟨{ m with queue := {} }, 0, fun _ => none⟩

/-- The scene at the queue once the taker `p` has turned the memory into `m`, and goes on like this
or is gone. -/
def moved (s : Hatch) (p : Party) (m : Memory) (k? : Option Taker) : Hatch :=
  { s with memory := m, takers := Function.update s.takers p k? }

theorem takers_moved_self {k? : Option Taker} : (s.moved p m k?).takers p = k? :=
  Function.update_self ..

theorem takers_moved_of_ne {p' : Party} {k? : Option Taker} (h : p' ≠ p) :
    (s.moved p m k?).takers p' = s.takers p' :=
  Function.update_of_ne h ..

/-- The answers to the calls of a taker. A wait ends when it is woken, which may come at any time,
or when its time is up; all else the memory answers. -/
inductive Served (s : Hatch) : (c : Call) → c.Answer → Memory → Prop
  | memory {c : Call} {a : c.Answer} {m : Memory} (answered : s.memory.answer? c = some (a, m)) :
    Served s c a m
  | woken {deadline : Option Nat} {stops : List Token} {listening : Bool} :
    Served s (.pause deadline stops listening) .notified s.memory
  | late {deadline : Nat} {stops : List Token} {listening : Bool} (due : deadline ≤ s.time) :
    Served s (.pause (some deadline) stops listening) .elapsed s.memory

/-- One thing that happens: an offer, the closing of the queue, a new taker, a call of a taker that
goes on within its round, begins another one or has its answer, or time that goes by. -/
inductive Step : Hatch → Happening → Hatch → Prop
  | offer {s : Hatch} {e : QueueEvent} {a : Except QueueError Unit} {m : Memory}
      (answered : s.memory.answer? (.enqueue e) = some (a, m)) :
      Step s (.offered e a) { s with memory := m }
  | close {s : Hatch} :
      Step s .closed { s with memory := { s.memory with queue := s.memory.queue.close } }
  | ask {s : Hatch} {p : Party} {timeout : Nat} (idle : s.takers p = none) :
      Step s (.asked p timeout)
        (s.moved p s.memory (some ⟨s.time, timeout, dequeueRound (s.time + timeout) false⟩))
  | go {s : Hatch} {p : Party} {k : Taker} {c c' : Call} {next : c.Answer → Program (Option Haul)}
      {next' : c'.Answer → Program (Option Haul)} {a : c.Answer} {m : Memory}
      (taking : s.takers p = some k) (left : k.rest = .ask c next) (served : Served s c a m)
      (more : next a = .ask c' next') :
      Step s (.tried p) (s.moved p m (some { k with rest := next a }))
  | again {s : Hatch} {p : Party} {k : Taker} {c : Call} {next : c.Answer → Program (Option Haul)}
      {a : c.Answer} {m : Memory} (taking : s.takers p = some k) (left : k.rest = .ask c next)
      (served : Served s c a m) (vain : next a = .done none) :
      Step s (.tried p) (s.moved p m (some { k with rest := dequeueRound k.deadline true }))
  | answer {s : Hatch} {p : Party} {k : Taker} {c : Call} {next : c.Answer → Program (Option Haul)}
      {a : c.Answer} {m : Memory} {h : Haul} (taking : s.takers p = some k)
      (left : k.rest = .ask c next) (served : Served s c a m) (told : next a = .done (some h)) :
      Step s (.answered p h) (s.moved p m none)
  | pass {s : Hatch} {n : Nat} : Step s (.passed n) { s with time := s.time + n }

/-- Things that happen one after the other. -/
inductive Run : Hatch → List Happening → Hatch → Prop
  | nil {s : Hatch} : Run s [] s
  | cons {s t u : Hatch} {l : Happening} {ls : List Happening} (step : Step s l t)
      (run : Run t ls u) : Run s (l :: ls) u

/-- The events that the queue has accepted. -/
def accepted (ls : List Happening) : List QueueEvent :=
  ls.filterMap Happening.accepted?

/-- The events that takers were given. -/
def handedOut (ls : List Happening) : List QueueEvent :=
  ls.filterMap Happening.handed?

/-- The time that has gone by. -/
def elapsed : List Happening → Nat
  | [] => 0
  | l :: ls => l.elapsed + elapsed ls

theorem Run.split (run : Run s (ls ++ ls') u) : ∃ t, Run s ls t ∧ Run t ls' u := by
  induction ls generalizing s with
  | nil => exact ⟨s, .nil, run⟩
  | cons l ls ih =>
    cases run with
    | cons step rest =>
      obtain ⟨t, before, after⟩ := ih rest
      exact ⟨t, .cons step before, after⟩

/-! ## Takers -/

/-- What a taker does after its wait. -/
def lastTry : Program (Option Haul) := do
  return some (.ok (← popQueue))

/-- What a taker does after a try that has found nothing. -/
def awaiting (deadline : Nat) : Program (Option Haul) := do
  match ← pause (some deadline) [] true with
  | .elapsed => lastTry
  | _ => return none

/-- Where a taker stands: it is about to try the queue, it waits, or its time was up and it is about
to try for the last time. -/
inductive Standing (time deadline : Nat) : Program (Option Haul) → Prop
  | trying {again : Bool} : Standing time deadline (dequeueRound deadline again)
  | waiting : Standing time deadline (awaiting deadline)
  | late (due : deadline ≤ time) : Standing time deadline lastTry

/-- Every taker stands somewhere. -/
def AllStand (s : Hatch) : Prop :=
  ∀ p k, s.takers p = some k → Standing s.time k.deadline k.rest

/-- What a call of a taker that stands somewhere comes to. -/
inductive Turned (s : Hatch) (k : Taker) (m : Memory) : Program (Option Haul) → Prop
  | given {e : QueueEvent} {es : List QueueEvent} (waiting : s.memory.queue.events = e :: es)
      (memory : m = { s.memory with queue := { s.memory.queue with events := es } }) :
      Turned s k m (.done (some (.ok (some e))))
  | refused (empty : s.memory.queue.events = []) (closed : s.memory.queue.isClosed = true)
      (memory : m = s.memory) : Turned s k m (.done (some (.error .closed)))
  | missed (empty : s.memory.queue.events = []) (due : k.deadline ≤ s.time)
      (memory : m = s.memory) : Turned s k m (.done (some (.ok none)))
  | vain (memory : m = s.memory) : Turned s k m (.done none)
  | going {q : Program (Option Haul)} (memory : m = s.memory)
      (standing : Standing s.time k.deadline q) : Turned s k m q

theorem Served.passQueue {again : Bool} {a : (Call.passQueue again).Answer}
    (served : Served s (.passQueue again) a m) :
    (a, m) = (s.memory.queue.pass.1, { s.memory with queue := s.memory.queue.pass.2 }) := by
  cases served with
  | memory answered => exact (Option.some.inj answered).symm

theorem Served.popQueue {a : Call.popQueue.Answer} (served : Served s .popQueue a m) :
    (a, m) = (s.memory.queue.pop.1, { s.memory with queue := s.memory.queue.pop.2 }) := by
  cases served with
  | memory answered => exact (Option.some.inj answered).symm

/-- **One call of a taker**, wherever it stands. -/
theorem Standing.turned {q : Program (Option Haul)} {c : Call}
    {next : c.Answer → Program (Option Haul)} {a : c.Answer}
    (standing : Standing s.time k.deadline q) (asks : q = .ask c next)
    (served : Served s c a m) : Turned s k m (next a) := by
  cases standing with
  | trying =>
    cases asks
    have pass := served.passQueue
    cases waiting : s.memory.queue.events with
    | nil =>
      rw [DeliveryQueue.pass_of_nil waiting] at pass
      cases closed : s.memory.queue.isClosed with
      | true =>
        rw [closed] at pass
        cases pass
        exact .refused waiting closed rfl
      | false =>
        rw [closed] at pass
        cases pass
        exact .going rfl .waiting
    | cons e es =>
      rw [DeliveryQueue.pass_of_cons waiting] at pass
      cases pass
      exact .given waiting rfl
  | waiting =>
    cases asks
    cases served with
    | memory answered => cases answered
    | woken => exact .vain rfl
    | late due => exact .going rfl (.late due)
  | late due =>
    cases asks
    have pop := served.popQueue
    cases waiting : s.memory.queue.events with
    | nil =>
      rw [DeliveryQueue.pop_of_nil waiting] at pop
      cases pop
      exact .missed waiting due rfl
    | cons e es =>
      rw [DeliveryQueue.pop_of_cons waiting] at pop
      cases pop
      exact .given waiting rfl

theorem Standing.later {time' : Nat} {q : Program (Option Haul)}
    (standing : Standing time deadline q) (le : time ≤ time') : Standing time' deadline q := by
  cases standing with
  | trying => exact .trying
  | waiting => exact .waiting
  | late due => exact .late (due.trans le)

theorem allStand_opening (m : Memory) : (opening m).AllStand :=
  fun _ _ => nofun

theorem AllStand.moved {k? : Option Taker} (stand : s.AllStand)
    (standing : ∀ k, k? = some k → Standing s.time k.deadline k.rest) :
    (s.moved p m k?).AllStand := by
  intro p' k taking
  by_cases hp : p' = p
  · subst hp
    exact standing k (by rw [← taking, takers_moved_self])
  · exact stand p' k (by rw [← taking, takers_moved_of_ne hp])

/-- **Every taker stands somewhere, step after step.** -/
theorem Step.stand (step : Step s l t) (stand : s.AllStand) : t.AllStand := by
  cases step with
  | offer | close => exact stand
  | ask | again =>
    refine stand.moved ?_
    rintro _ ⟨⟩
    exact .trying
  | go taking left served more =>
    have turned := (stand _ _ taking).turned left served
    rw [more] at turned ⊢
    cases turned with
    | going _ standing =>
      refine stand.moved ?_
      rintro _ ⟨⟩
      exact standing
  | answer => exact stand.moved fun _ => nofun
  | pass => exact fun p k taking => (stand p k taking).later (Nat.le_add_right _ _)

/-! ## What happens at the queue -/

/-- What each thing that happens says of the queue before and after it. -/
def Lawful (s : Hatch) : Happening → Hatch → Prop
  | .offered e (.ok ()), t => s.memory.queue.isClosed = false ∧
      t = { s with memory.queue.events := s.memory.queue.events ++ [e] }
  | .offered _ (.error err), t => err = .closed ∧ s.memory.queue.isClosed = true ∧ t = s
  | .closed, t => t = { s with memory.queue.isClosed := true }
  | .answered _ (.ok (some e)), t => ∃ es, s.memory.queue.events = e :: es ∧
      t.memory = { s.memory with queue.events := es }
  | .answered p (.ok none), t => s.memory.queue.events = [] ∧ t.memory = s.memory ∧
      ∃ k, s.takers p = some k ∧ k.since + k.timeout ≤ s.time
  | .answered _ (.error err), t => err = .closed ∧ s.memory.queue.events = [] ∧
      s.memory.queue.isClosed = true ∧ t.memory = s.memory
  | .asked .., t | .tried _, t | .passed _, t => t.memory = s.memory

/-- **One step.** -/
theorem Step.lawful (step : Step s l t) (stand : s.AllStand) : Lawful s l t := by
  cases step with
  | @offer e a m answered =>
    cases closed : s.memory.queue.isClosed with
    | true =>
      rw [Memory.answer?, DeliveryQueue.enqueue, if_pos closed] at answered
      cases answered
      exact ⟨rfl, closed, rfl⟩
    | false =>
      rw [Memory.answer?, DeliveryQueue.enqueue, if_neg (by simp [closed])] at answered
      cases answered
      exact ⟨closed, rfl⟩
  | close => rfl
  | ask | pass => rfl
  | go taking left served more =>
    have turned := (stand _ _ taking).turned left served
    rw [more] at turned
    cases turned with
    | going memory => exact memory
  | again taking left served vain =>
    have turned := (stand _ _ taking).turned left served
    rw [vain] at turned
    cases turned with
    | vain memory => exact memory
    | going _ standing => cases standing
  | answer taking left served told =>
    have turned := (stand _ _ taking).turned left served
    rw [told] at turned
    cases turned with
    | given waiting memory => exact ⟨_, waiting, memory⟩
    | refused empty closed memory => exact ⟨rfl, empty, closed, memory⟩
    | missed empty due memory => exact ⟨empty, memory, _, taking, due⟩
    | going _ standing => cases standing

/-- **No step makes an event, loses one or changes their order.** -/
theorem Lawful.balanced (lawful : Lawful s l t) :
    s.memory.queue.events ++ l.accepted?.toList =
      l.handed?.toList ++ t.memory.queue.events := by
  have kept (memory : t.memory = s.memory) :
      s.memory.queue.events ++ [] = [] ++ t.memory.queue.events := by
    rw [memory, List.append_nil, List.nil_append]
  cases l with
  | offered e a =>
    cases a with
    | ok =>
      obtain ⟨-, rfl⟩ := lawful
      rfl
    | error =>
      obtain ⟨-, -, rfl⟩ := lawful
      exact kept rfl
  | closed =>
    obtain rfl : t = _ := lawful
    exact List.append_nil _
  | answered p a =>
    match a, lawful with
    | .ok (some e), ⟨es, waiting, memory⟩ =>
      rw [waiting, memory]
      exact List.append_nil _
    | .ok none, ⟨_, memory, _⟩ => exact kept memory
    | .error err, ⟨_, _, _, memory⟩ => exact kept memory
  | asked | tried | passed => exact kept lawful

/-- **The queue is closed** by nothing else, and stays so. -/
theorem Lawful.isClosed_iff (lawful : Lawful s l t) :
    t.memory.queue.isClosed = true ↔ s.memory.queue.isClosed = true ∨ .closed = l := by
  cases l with
  | offered e a =>
    cases a with
    | ok =>
      obtain ⟨-, rfl⟩ := lawful
      simp
    | error =>
      obtain ⟨-, -, rfl⟩ := lawful
      simp
  | closed =>
    obtain rfl : t = _ := lawful
    simp
  | answered p a =>
    match a, lawful with
    | .ok (some e), ⟨es, _, memory⟩ => simp [memory]
    | .ok none, ⟨_, memory, _⟩ => simp [memory]
    | .error err, ⟨_, _, _, memory⟩ => simp [memory]
  | asked | tried | passed =>
    have memory : t.memory = s.memory := lawful
    simp [memory]

/-- Where a taker was before a step: it began with the step, or it was there and has no answer of
it. -/
theorem Step.taker (step : Step s l t) (taking : t.takers p = some k) :
    (∃ k₀, s.takers p = some k₀ ∧ k₀.since = k.since ∧ k₀.timeout = k.timeout ∧
      (∀ a, .answered p a ≠ l) ∧ t.time = s.time + l.elapsed) ∨
    l = .asked p k.timeout ∧ k.since = t.time := by
  have stays (there : s.takers p = some k) (unanswered : ∀ a, .answered p a ≠ l)
      (time : t.time = s.time + l.elapsed) : ∃ k₀, s.takers p = some k₀ ∧ k₀.since = k.since ∧
        k₀.timeout = k.timeout ∧ (∀ a, .answered p a ≠ l) ∧ t.time = s.time + l.elapsed :=
    ⟨k, there, rfl, rfl, unanswered, time⟩
  cases step with
  | offer | close | pass => exact .inl (stays taking (fun _ => nofun) rfl)
  | @ask p' timeout idle =>
    by_cases hp : p = p'
    · subst hp
      rw [takers_moved_self] at taking
      cases taking
      exact .inr ⟨rfl, rfl⟩
    · rw [takers_moved_of_ne hp] at taking
      exact .inl (stays taking (fun _ => nofun) rfl)
  | @go p' k' | @again p' k' =>
    by_cases hp : p = p'
    · subst hp
      rw [takers_moved_self] at taking
      cases taking
      exact .inl ⟨k', ‹_›, rfl, rfl, fun _ => nofun, rfl⟩
    · rw [takers_moved_of_ne hp] at taking
      exact .inl (stays taking (fun _ => nofun) rfl)
  | @answer p' =>
    by_cases hp : p = p'
    · subst hp
      rw [takers_moved_self] at taking
      cases taking
    · rw [takers_moved_of_ne hp] at taking
      refine .inl (stays taking (fun _ eq => hp ?_) rfl)
      injection eq

/-! ## Runs -/

theorem Run.stand (run : Run s ls t) (stand : s.AllStand) : t.AllStand := by
  induction run with
  | nil => exact stand
  | cons step _ ih => exact ih (step.stand stand)

theorem accepted_cons (l : Happening) (ls : List Happening) :
    accepted (l :: ls) = l.accepted?.toList ++ accepted ls := by
  cases h : l.accepted? <;> simp [accepted, h]

theorem handedOut_cons (l : Happening) (ls : List Happening) :
    handedOut (l :: ls) = l.handed?.toList ++ handedOut ls := by
  cases h : l.handed? <;> simp [handedOut, h]

theorem elapsed_cons (l : Happening) (ls : List Happening) :
    elapsed (l :: ls) = l.elapsed + elapsed ls := rfl

/-- **Every event that was accepted was handed out or waits, in its order.** -/
theorem Run.balanced (run : Run s ls t) (stand : s.AllStand) :
    s.memory.queue.events ++ accepted ls = handedOut ls ++ t.memory.queue.events := by
  induction run with
  | nil => exact List.append_nil _
  | @cons s t u l ls step _ ih =>
    calc s.memory.queue.events ++ accepted (l :: ls)
        = (s.memory.queue.events ++ l.accepted?.toList) ++ accepted ls := by
          rw [accepted_cons, List.append_assoc]
      _ = l.handed?.toList ++ (t.memory.queue.events ++ accepted ls) := by
          rw [(step.lawful stand).balanced, List.append_assoc]
      _ = handedOut (l :: ls) ++ u.memory.queue.events := by
          rw [ih (step.stand stand), handedOut_cons, List.append_assoc]

/-- **A queue is closed once somebody has closed it**, and only then. -/
theorem Run.isClosed_iff (run : Run s ls t) (stand : s.AllStand) :
    t.memory.queue.isClosed = true ↔ s.memory.queue.isClosed = true ∨ .closed ∈ ls := by
  induction run with
  | nil => simp
  | @cons s t u l ls step _ ih =>
    rw [ih (step.stand stand), (step.lawful stand).isClosed_iff, List.mem_cons, or_assoc]

/-- A taker that is there now was there before, or began at some time and has no answer since. -/
theorem Run.asked (run : Run s ls t) (taking : t.takers p = some k) :
    (∃ k₀, s.takers p = some k₀ ∧ k₀.since = k.since ∧ k₀.timeout = k.timeout ∧
      (∀ a, .answered p a ∉ ls) ∧ t.time = s.time + elapsed ls) ∨
    ∃ earlier since, ls = earlier ++ .asked p k.timeout :: since ∧
      (∀ a, .answered p a ∉ since) ∧ t.time = k.since + elapsed since := by
  induction run with
  | nil => exact .inl ⟨k, taking, rfl, rfl, fun _ => List.not_mem_nil, rfl⟩
  | @cons s t u l ls step _ ih =>
    rcases ih taking with ⟨k₁, taking₁, since, timeout, waits, time⟩ |
        ⟨earlier, rest, eq, waits, time⟩
    · rcases step.taker taking₁ with ⟨k₀, taking₀, since₀, timeout₀, unanswered, time₀⟩ |
          ⟨rfl, time₀⟩
      · refine .inl ⟨k₀, taking₀, since₀.trans since, timeout₀.trans timeout, fun a h => ?_, ?_⟩
        · rcases List.mem_cons.1 h with rfl | h
          · exact unanswered a rfl
          · exact waits a h
        · rw [time, time₀, elapsed_cons, Nat.add_assoc]
      · refine .inr ⟨[], ls, by rw [timeout]; rfl, waits, ?_⟩
        rw [time, ← time₀, since]
    · exact .inr ⟨l :: earlier, rest, by rw [eq]; rfl, waits, time⟩

/-- A taker that begins now has its answer with its first call, if this is an answer. -/
theorem run_ask {h : Haul} (idle : s.takers p = none) (timeout : Nat)
    (told : s.memory.queue.pass.1.haul? = some h) :
    ∃ t, Run s [.asked p timeout, .answered p h] t := by
  let asking : Taker := ⟨s.time, timeout, dequeueRound (s.time + timeout) false⟩
  have taking : (s.moved p s.memory (some asking)).takers p = some asking := takers_moved_self
  refine ⟨_, .cons (.ask idle) (.cons (.answer taking rfl (.memory rfl) ?_) .nil)⟩
  -- what is left of its round is told by the first try alone
  show (match s.memory.queue.pass.1 with
    | .taken e => pure (some (.ok (some e)))
    | .refused err => pure (some (.error err))
    | .nothing => awaiting asking.deadline : Program (Option Haul)) = .done (some h)
  cases pass : s.memory.queue.pass.1 with
  | taken e | refused err =>
    rw [pass] at told
    cases told
    rfl
  | nothing =>
    rw [pass] at told
    cases told

/-! ## The queue in every run -/

/-- What a thing that happens tells, after all that has happened before it. -/
def Fitting (before : List Happening) : Happening → Prop
  | .offered _ (.ok ()) => .closed ∉ before
  | .offered _ (.error err) => err = .closed ∧ .closed ∈ before
  | .answered _ (.ok (some e)) => handedOut before ++ [e] <+: accepted before
  | .answered p (.ok none) => accepted before = handedOut before ∧
      ∃ earlier timeout since, before = earlier ++ .asked p timeout :: since ∧
        (∀ a, .answered p a ∉ since) ∧ timeout ≤ elapsed since
  | .answered _ (.error err) => err = .closed ∧ .closed ∈ before ∧
      accepted before = handedOut before
  | .closed | .asked .. | .tried _ | .passed _ => True

/-- **Whatever happens fits to what has happened before.** -/
theorem Run.fitting (run : Run (opening m) ls s) (step : Step s l t) : Fitting ls l := by
  have balanced : accepted ls = handedOut ls ++ s.memory.queue.events :=
    run.balanced (allStand_opening m)
  have closed : s.memory.queue.isClosed = true ↔ .closed ∈ ls := by
    rw [run.isClosed_iff (allStand_opening m)]
    simp [opening]
  have lawful := step.lawful (run.stand (allStand_opening m))
  have empty (nothing : s.memory.queue.events = []) : accepted ls = handedOut ls := by
    rw [balanced, nothing, List.append_nil]
  match l, lawful with
  | .offered _ (.ok ()), ⟨opened, _⟩ =>
    exact fun h => by simp [closed.2 h] at opened
  | .offered _ (.error err), ⟨eq, isClosed, _⟩ => exact ⟨eq, closed.1 isClosed⟩
  | .answered _ (.ok (some e)), ⟨es, waiting, _⟩ =>
    exact ⟨es, by rw [balanced, waiting, List.append_assoc]; rfl⟩
  | .answered p (.ok none), ⟨nothing, _, k, taking, due⟩ =>
    refine ⟨empty nothing, ?_⟩
    rcases run.asked taking with ⟨_, taking₀, -⟩ | ⟨earlier, since, eq, waits, time⟩
    · cases taking₀
    · exact ⟨earlier, k.timeout, since, eq, waits, by omega⟩
  | .answered _ (.error err), ⟨eq, nothing, isClosed, _⟩ =>
    exact ⟨eq, closed.1 isClosed, empty nothing⟩
  | .closed, _ | .asked .., _ | .tried _, _ | .passed _, _ => trivial

/-- **First in, first out**: in every run, the events that were accepted are those that takers were
given and then those that wait, in one order. Whatever happens fits to what has happened before: a
queue refuses events exactly when it was closed, takers are given the first events, and they are
told of nothing else but when no event waits, either for a queue that was closed or after their
time. A refused event changes nothing. A taker that begins now is given the first event, also by a
closed queue, and only an empty one tells that it is closed. -/
theorem first_in_first_out (run : Run (opening m) ls s) :
    accepted ls = handedOut ls ++ s.memory.queue.events ∧
    (∀ before l after, ls = before ++ l :: after → Fitting before l) ∧
    (∀ e err t, Step s (.offered e (.error err)) t → t = s) ∧
    ∀ p timeout, s.takers p = none →
      (∀ e es, s.memory.queue.events = e :: es →
        ∃ t, Run s [.asked p timeout, .answered p (.ok (some e))] t) ∧
      (s.memory.queue.events = [] → .closed ∈ ls →
        ∃ t, Run s [.asked p timeout, .answered p (.error .closed)] t) := by
  have stand := run.stand (allStand_opening m)
  refine ⟨run.balanced (allStand_opening m), ?_, fun e err t step => (step.lawful stand).2.2,
    fun p timeout idle => ⟨fun e es waiting => ?_, fun empty closed => ?_⟩⟩
  · rintro before l after rfl
    obtain ⟨u, run, rest⟩ := run.split
    cases rest with
    | cons step _ => exact run.fitting step
  · refine run_ask idle timeout ?_
    rw [DeliveryQueue.pass_of_cons waiting]
    rfl
  · refine run_ask idle timeout ?_
    rw [DeliveryQueue.pass_of_nil empty,
      if_pos ((run.isClosed_iff (allStand_opening m)).2 (.inr closed))]
    rfl

/-! ## A sample run -/

namespace Sample

open Outbox.Sample (event)

/-- The first taker waits for five units of time, and the second one does not wait. Then two events
come, of which the second taker is given one. The time of the first one is up, and the queue is
closed, before it tries for the last time. -/
def happenings : List Happening :=
  [.asked 0 5, .tried 0, .asked 1 0, .tried 1, .tried 1, .answered 1 (.ok none),
    .offered (event 1) (.ok ()), .offered (event 2) (.ok ()), .asked 1 9,
    .answered 1 (.ok (some (event 1))), .passed 5, .tried 0, .closed,
    .offered (event 3) (.error .closed), .answered 0 (.ok (some (event 2))), .asked 1 9,
    .answered 1 (.error .closed)]

theorem exists_run : ∃ s, Run (opening {}) happenings s ∧ s.memory.queue.events = [] := by
  refine ⟨_, .cons (.ask rfl) <| .cons (.go rfl rfl (.memory rfl) rfl) <|
    .cons (.ask rfl) <| .cons (.go rfl rfl (.memory rfl) rfl) <|
    .cons (.go rfl rfl (.late (Nat.le_refl _)) rfl) <| .cons (.answer rfl rfl (.memory rfl) rfl) <|
    .cons (.offer rfl) <| .cons (.offer rfl) <| .cons (.ask rfl) <|
    .cons (.answer rfl rfl (.memory rfl) rfl) <| .cons .pass <|
    .cons (.go rfl rfl (.late (Nat.le_refl _)) rfl) <| .cons .close <| .cons (.offer rfl) <|
    .cons (.answer rfl rfl (.memory rfl) rfl) <| .cons (.ask rfl) <|
    .cons (.answer rfl rfl (.memory rfl) rfl) .nil, rfl⟩

end Sample

/-- In the sample run both events were handed out, in their order, and when the second taker was
told of nothing there was none. -/
theorem first_in_first_out_sample :
    accepted Sample.happenings = handedOut Sample.happenings ∧
    Fitting (Sample.happenings.take 5) (.answered 1 (.ok none)) := by
  obtain ⟨s, run, empty⟩ := Sample.exists_run
  obtain ⟨balanced, fitting, -⟩ := first_in_first_out run
  rw [empty, List.append_nil] at balanced
  exact ⟨balanced, fitting _ _ (Sample.happenings.drop 6) rfl⟩

end Hatch

end MessageGateway
