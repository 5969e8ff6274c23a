import MessageGateway.QueueEvent

/-!
# The delivery queue

Events leave the queue in the order in which they came. A closed queue takes no more events and
still hands out those it has. Taking an event is done in passes: a pass takes the first event or
finds none, and then the taker waits for another pass.

## Main definitions

* `DeliveryQueue`, `DeliveryQueue.enqueue`, `DeliveryQueue.close`
* `Pass`, `DeliveryQueue.pass`: one try to take an event
* `DeliveryQueue.pop`: the last try, when the wait is over
-/

namespace MessageGateway

/-- Why a queue did not do what it was asked. -/
inductive QueueError where
  /-- The queue is closed. -/
  | closed
  /-- The queue itself failed. -/
  | failed (text : String)
  deriving DecidableEq, Repr

/-- The wording of the error. -/
def QueueError.message : QueueError → String
  | .closed => "queue is closed"
  | .failed text => "queue operation failed: " ++ text

/-- A queue of events. -/
structure DeliveryQueue where
  /-- The events, first one first. -/
  events : List QueueEvent := []
  /-- No more events are taken. -/
  isClosed : Bool := false

/-- What one try to take an event comes to. -/
inductive Pass where
  /-- The first event. -/
  | taken (e : QueueEvent)
  /-- There is no event now, but one may come. -/
  | nothing
  /-- No event will come, or the queue failed. -/
  | refused (e : QueueError)

namespace DeliveryQueue

/-- The queue with an event at its end. -/
def enqueue (q : DeliveryQueue) (e : QueueEvent) : Except QueueError DeliveryQueue :=
  if q.isClosed then .error .closed else .ok { q with events := q.events ++ [e] }

/-- The queue, closed. -/
def close (q : DeliveryQueue) : DeliveryQueue :=
  { q with isClosed := true }

/-- The first event and the queue without it. -/
def pop (q : DeliveryQueue) : Option QueueEvent × DeliveryQueue :=
  match q.events with
  | [] => (none, q)
  | e :: es => (some e, { q with events := es })

/-- One try to take an event: it fails only when the queue is empty and closed. -/
def pass (q : DeliveryQueue) : Pass × DeliveryQueue :=
  match q.pop with
  | (some e, q) => (.taken e, q)
  | (none, q) => (if q.isClosed then .refused .closed else .nothing, q)

/-- A try to take an event would come to something. -/
def isReady (q : DeliveryQueue) : Bool :=
  !q.events.isEmpty || q.isClosed

end DeliveryQueue

end MessageGateway
