import MessageGateway.Proofs.Delivery.Operations
import MessageGateway.Proofs.HistorySync.Conduct
import MessageGateway.Tasks

/-!
# The conduct of workers

A worker looks for an event, works on it to the end, and looks for the next one. Nothing else takes
events out of the queue: neither the work on an event nor any other task does.

## Main definitions

* `Call.isTake`, `Exchange.taken?`, `Exchange.accepted?`: how events leave the queue and come into
  it
* `Exchange.isDismissal`: the answers by which a worker is told to stop
* `Outbox.Seeks`: a round in which a worker still has no event
* `Outbox.Worked`: the calls of a worker that has no event, and the events that it has done with

## Main results

* `Outbox.workerRound_seeks`: what a worker does in a round
* `Outbox.processEvent_untaking`, `Outbox.round_untaking`: nothing else takes events
* `Outbox.Worked.taken`: a worker has done with all events that it has taken
-/

namespace MessageGateway

open Program

/-! ## The calls of the queue -/

/-- By such a call an event may be taken. -/
def Call.isTake : Call → Bool
  | .passQueue _ | .popQueue => true
  | _ => false

/-- A worker with these tokens makes such calls while it has no event. -/
def Call.IsSearch (stops : List Token) : Call → Prop
  | .anyFired ts | .pause _ ts _ => ts = stops
  | .elapsed | .passQueue _ | .popQueue => True
  | _ => False

namespace Exchange

/-- The event that was taken. -/
def taken? : Exchange → Option QueueEvent
  | ⟨.passQueue _, .taken e⟩ => some e
  | ⟨.popQueue, some e⟩ => some e
  | _ => none

/-- The event that the queue has accepted. -/
def accepted? : Exchange → Option QueueEvent
  | ⟨.enqueue e, .ok ()⟩ => some e
  | _ => none

/-- A worker stops at such an answer: a token was fired, or no event will come any more. -/
def isDismissal : Exchange → Bool
  | ⟨.anyFired _, true⟩ | ⟨.pause .., .stopped⟩ | ⟨.passQueue _, .refused .closed⟩ => true
  | _ => false

theorem taken?_of_not_isTake {x : Exchange} (h : x.call.isTake = false) : x.taken? = none := by
  obtain ⟨c, a⟩ := x
  cases c with
  | passQueue | popQueue => cases h
  | _ => rfl

theorem filterMap_taken?_of_not_isTake {t : Trace} (h : ∀ x ∈ t, x.call.isTake = false) :
    t.filterMap taken? = [] :=
  List.filterMap_eq_nil_iff.2 fun x hx => taken?_of_not_isTake (h x hx)

end Exchange

namespace Outbox

variable {c : GatewayConfig} {stops : List Token} {t u : Trace} {es : List QueueEvent}
  {e : QueueEvent} {x : Exchange}

/-! ## What takes nothing -/

/-- The program takes nothing out of the queue, and no worker goes on where it ends. -/
structure Untaking (p : Program (Option Activity)) : Prop where
  only : p.Only fun c => c.isTake = false
  ends : p.Ends fun o => ∀ stops phase, o ≠ some (.worker stops phase)

theorem not_isTake_of_isPreparation {call : Call} (h : call.isPreparation = true) :
    call.isTake = false := by
  cases call <;> first | rfl | cases h

section

attribute [local irreducible] Program.Only

/-- **The work on an event takes no other one.** -/
theorem processEvent_untaking (c : GatewayConfig) (e : QueueEvent) :
    (processEvent c e).Only fun c => c.isTake = false :=
  Delivery.processEvent_only c e
    (fun input _ => Dispatch.send_only c input (fun _ _ => rfl) rfl rfl (fun _ => rfl)
      (fun _ => not_isTake_of_isPreparation) rfl (fun _ => rfl) (fun _ => rfl) fun _ _ => rfl)
    (Delivery.failPending_only e.id rfl rfl fun _ => rfl)

theorem next_not_isTake {call : Call} {next : call.Answer → Program Unit}
    (made : (processEvent c e).Made u (.ask call next)) : call.isTake = false :=
  made.next_only (processEvent_untaking c e)

/-- Work makes no take of its own. -/
theorem taken_append {p : Program Unit} (made : (processEvent c e).Made u p)
    (taken : x.taken? = some e) :
    (u ++ x :: t).filterMap Exchange.taken? = e :: t.filterMap Exchange.taken? := by
  have untaking := Exchange.filterMap_taken?_of_not_isTake (made.only (processEvent_untaking c e))
  rw [List.filterMap_append, untaking, List.nil_append, List.filterMap_cons_some taken]

end

theorem sweeperRound_untaking (c : GatewayConfig) (stops : List Token) (due : Option Nat) :
    Untaking (sweeperRound c stops due) := by
  have sweep : (sweepOnce c.outbox.recoveryBatch).Only fun c => c.isTake = false :=
    Delivery.sweepOnce_only _ rfl fun _ => rfl
  constructor
  · refine Only.bind (only_request rfl) fun time => ?_
    refine Only.bind (only_request rfl) fun wake => ?_
    cases wake with
    | stopped => exact only_pure _
    | notified | elapsed => exact Only.bind (Only.bestEffort sweep) fun _ => only_pure _
  · refine Ends.bind (ends_of_forall (fun _ => trivial) _) fun time _ => ?_
    refine Ends.bind (ends_of_forall (fun _ => trivial) _) fun wake _ => ?_
    cases wake with
    | stopped => exact fun _ _ => nofun
    | notified | elapsed =>
      exact Ends.bind (ends_of_forall (fun _ => trivial) _) fun _ _ _ _ => nofun

/-- **Tasks other than workers take nothing**, round after round. -/
theorem round_untaking (c : GatewayConfig) {a : Activity}
    (other : ∀ stops phase, a ≠ .worker stops phase) : Untaking (a.round c) := by
  cases a with
  | worker stops phase => exact absurd rfl (other stops phase)
  | sweeper stops due => exact sweeperRound_untaking c stops due
  | cycle i h =>
    have only : (cycleRound c.historySync i h).Only fun c => c.isTake = false :=
      HistorySync.cycleRound_only _ i h rfl (fun _ => rfl) rfl (fun _ => rfl) rfl fun _ => rfl
    refine ⟨Only.bind only fun _ => only_pure _, ?_⟩
    exact Ends.bind (ends_of_forall (fun _ => trivial) _) fun _ _ _ _ => nofun

/-! ## Rounds of workers -/

/-- The rest of a round once an event was taken: the work on it, and then a new round. -/
def working (stops : List Token) (work : Program Unit) : Program (Option Activity) := do
  work
  return some (.worker stops .fetch)

/-- What is left of the round of a worker that still has no event. What it takes it works on; when
it is dismissed it is done, and else it goes on, in this round or the next one. -/
def Seeks (c : GatewayConfig) (stops : List Token) : Program (Option Activity) → Prop
  | .done o => ∃ phase, o = some (.worker stops phase)
  | .ask call next => call.IsSearch stops ∧ ∀ a,
    match Exchange.taken? ⟨call, a⟩ with
    | some e => next a = working stops (processEvent c e)
    | none =>
      if Exchange.isDismissal ⟨call, a⟩ then next a = .done none else Seeks c stops (next a)

section

attribute [local irreducible] processEvent

theorem workerTry_seeks (c : GatewayConfig) (stops : List Token) (deadline : Nat) (again : Bool) :
    Seeks c stops (workerTry c stops deadline again) := by
  refine ⟨trivial, fun pass => ?_⟩
  cases pass with
  | taken e => rfl
  | nothing =>
    refine ⟨rfl, fun wake => ?_⟩
    cases wake with
    | stopped => rfl
    | notified => exact ⟨_, rfl⟩
    | elapsed =>
      refine ⟨trivial, fun found => ?_⟩
      cases found with
      | some e => rfl
      | none => exact ⟨_, rfl⟩
  | refused err =>
    cases err with
    | closed => rfl
    | failed text =>
      refine ⟨trivial, fun time => ⟨rfl, fun wake => ?_⟩⟩
      cases wake with
      | stopped => rfl
      | notified | elapsed => exact ⟨_, rfl⟩

end

/-- **A round of a worker**, wherever it begins. -/
theorem workerRound_seeks (c : GatewayConfig) (stops : List Token) (phase : WorkerPhase) :
    Seeks c stops (workerRound c stops phase) := by
  cases phase with
  | poll deadline => exact workerTry_seeks c stops deadline true
  | fetch =>
    refine ⟨rfl, fun fired => ?_⟩
    cases fired with
    | true => rfl
    | false => exact ⟨trivial, fun time => workerTry_seeks c stops _ false⟩

/-- The calls of a worker that has no event, and the events that it has done with, last ones first:
it has looked for events, and the work on each that it took was run to its end, once. -/
inductive Worked (c : GatewayConfig) (stops : List Token) : Trace → List QueueEvent → Prop
  | start : Worked c stops [] []
  | sought {t : Trace} {es : List QueueEvent} {x : Exchange} (worked : Worked c stops t es)
      (search : x.call.IsSearch stops) (none : x.taken? = none) : Worked c stops (x :: t) es
  | processed {t u : Trace} {es : List QueueEvent} {x : Exchange} {e : QueueEvent}
      (worked : Worked c stops t es) (taken : x.taken? = some e)
      (made : (processEvent c e).Made u (.done ())) : Worked c stops (u ++ x :: t) (e :: es)

/-- **A worker without an event has done with all that it has taken.** -/
theorem Worked.taken (worked : Worked c stops t es) : t.filterMap Exchange.taken? = es := by
  induction worked with
  | start => rfl
  | sought worked search none ih => rw [List.filterMap_cons_none none, ih]
  | processed worked taken made ih => rw [taken_append made taken, ih]

end Outbox

end MessageGateway
