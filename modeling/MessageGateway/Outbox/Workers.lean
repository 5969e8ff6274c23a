import MessageGateway.Outbox

/-!
# Workers

A pool of workers takes events out of the queue, and a sweeper runs beside them. All of them stop
when the pool's token or that of the scope around it is fired, but never in the middle of an
event. Each of them is written as one round, which tells how the next one begins.

## Main definitions

* `workerRound`: what a worker does until it would come back to where it is
* `sweeperRound`: the pause before a sweep, and the sweep
* `WorkerPool`, `startWorkers`: the tasks of a pool
* `dequeueRound`, `dequeue`: taking an event, for callers that are not workers
-/

namespace MessageGateway

open Program

/-- One try to take an event by a caller who waits until `deadline`: an answer, or nothing when the
caller has to try again. -/
def dequeueRound (deadline : Nat) (again : Bool) :
    Program (Option (Except QueueError (Option QueueEvent))) := do
  match ← passQueue again with
  | .taken e => return some (.ok (some e))
  | .refused e => return some (.error e)
  | .nothing =>
    match ← pause (some deadline) [] true with
    | .elapsed => return some (.ok (← popQueue))
    | _ => return none

/-- Taking an event, for a caller who waits until `deadline` and tries at most so many times. -/
def dequeue (deadline : Nat) (again : Bool) :
    (tries : Nat) → Program (Except QueueError (Option QueueEvent))
  | 0 => return .ok (← popQueue)
  | tries + 1 => do
    match ← dequeueRound deadline again with
    | some answer => return answer
    | none => dequeue deadline true tries

/-- A worker's try to take an event; while it waits it also watches its tokens. -/
def workerTry (c : GatewayConfig) (stops : List Token) (deadline : Nat) (again : Bool) :
    Program (Option Activity) := do
  match ← passQueue again with
  | .taken e =>
    processEvent c e
    return some (.worker stops .fetch)
  | .refused .closed => return none
  | .refused (.failed _) =>
    let time ← elapsed
    match ← pause (some (time + c.outbox.dequeueTimeout)) stops false with
    | .stopped => return none
    | _ => return some (.worker stops .fetch)
  | .nothing =>
    match ← pause (some deadline) stops true with
    | .stopped => return none
    | .notified => return some (.worker stops (.poll deadline))
    | .elapsed =>
      if let some e ← popQueue then
        processEvent c e
      return some (.worker stops .fetch)

/-- One round of a worker; there is no next one when it stops. -/
def workerRound (c : GatewayConfig) (stops : List Token) :
    WorkerPhase → Program (Option Activity)
  | .fetch => do
    if ← anyFired stops then
      return none
    let time ← elapsed
    workerTry c stops (time + c.outbox.dequeueTimeout) false
  | .poll deadline => workerTry c stops deadline true

/-- One round of the sweeper. The first sweep is due one interval after the start. -/
def sweeperRound (c : GatewayConfig) (stops : List Token) (due : Option Nat) :
    Program (Option Activity) := do
  let time ← elapsed
  let due := due.getD (time + c.outbox.recoveryInterval)
  match ← pause (some due) stops false with
  | .stopped => return none
  | _ =>
    let _ ← bestEffort (sweepOnce c.outbox.recoveryBatch)
    return some (.sweeper stops (some (due + c.outbox.recoveryInterval)))

/-- The tasks of a pool, and the token that stops them. -/
structure WorkerPool where
  /-- The pool's own token. -/
  shutdown : Token
  /-- The workers and the sweeper. -/
  tasks : List TaskId

/-- The tasks for the activities. -/
def spawnAll : List Activity → Program (List TaskId)
  | [] => pure []
  | a :: as => do return (← spawn a) :: (← spawnAll as)

/-- Starts the workers and the sweeper, under the token `scope` and one of their own. -/
def startWorkers (c : GatewayConfig) (scope : Token) : Program WorkerPool := do
  let shutdown ← issueToken
  let stops := [scope, shutdown]
  let workers := List.replicate c.outbox.workers (Activity.worker stops .fetch)
  let tasks ← spawnAll (workers ++ [.sweeper stops none])
  return { shutdown, tasks }

end MessageGateway
