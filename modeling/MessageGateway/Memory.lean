import MessageGateway.Call
import MessageGateway.Store.Instances
import MessageGateway.Store.Messages
import MessageGateway.Store.Payloads

/-!
# The memory of a gateway

Stores, queue, registry and tokens, kept in memory, answer a good part of a gateway's calls. A
store that refuses a write stays as it is.

## Main definitions

* `Memory`: everything that a gateway keeps
* `Memory.answer? c m`: the answer to a call and the memory after it, unless the call is of
  something outside the memory
-/

namespace MessageGateway

/-- Everything that a gateway keeps. -/
structure Memory where
  /-- The records of messages. -/
  messages : MessageStore := .empty
  /-- The records of instances. -/
  instances : InstanceStore := .empty
  /-- The announcements of history. -/
  payloads : PayloadStore := .empty
  /-- The events that wait for a worker. -/
  queue : DeliveryQueue := {}
  /-- The handles of running cycles. -/
  registry : CycleRegistry := .empty
  /-- The tokens that tasks watch. -/
  tokens : TokenBox := {}

namespace Memory

/-- The answer to a write that leaves `set s` when it comes to the store `s`. -/
def written {σ α : Type} (m : Memory) (set : σ → Memory) (a : α) :
    Except StoreError σ → Except StoreError α × Memory
  | .ok s => (.ok a, set s)
  | .error e => (.error e, m)

/-- The answer to a call, and the memory after it. -/
def answer? : (c : Call) → Memory → Option (c.Answer × Memory)
  | .findMessage id, m => some (.ok (m.messages.find? id), m)
  | .createMessage r, m =>
    some (m.written (fun s => { m with messages := s }) r (m.messages.create r))
  | .updateMessage r, m =>
    some (m.written (fun s => { m with messages := s }) () (m.messages.update r))
  | .pendingMessages limit, m => some (.ok (m.messages.pending limit), m)
  | .messagesOf i, m => some (.ok (m.messages.ofInstance i), m)
  | .findInstance i, m => some (m.instances.get i, m)
  | .updateInstance r, m =>
    some (m.written (fun s => { m with instances := s }) r (m.instances.update r))
  | .finishCycle i c status now, m =>
    match m.instances.finish i c status now with
    | .ok (r, s) => some (.ok r, { m with instances := s })
    | .error e => some (.error e, m)
  | .createPayload p, m =>
    some (m.written (fun s => { m with payloads := s }) p (m.payloads.create p))
  | .pendingPayloads i c, m => some (.ok (m.payloads.pending i c), m)
  | .markPayload id status processed, m =>
    some (m.written (fun s => { m with payloads := s }) () (m.payloads.mark id status processed))
  | .purgePayloads i, m => some (.ok (), { m with payloads := m.payloads.purge i })
  | .enqueue e, m =>
    match m.queue.enqueue e with
    | .ok q => some (.ok (), { m with queue := q })
    | .error e => some (.error e, m)
  | .passQueue _, m => some (m.queue.pass.1, { m with queue := m.queue.pass.2 })
  | .popQueue, m => some (m.queue.pop.1, { m with queue := m.queue.pop.2 })
  | .findHandle i, m => some (m.registry.acquire i, m)
  | .mountHandle i h, m =>
    some ((m.registry.mount i h).1, { m with registry := (m.registry.mount i h).2 })
  | .removeHandle i, m =>
    some ((m.registry.remove i).1, { m with registry := (m.registry.remove i).2 })
  | .removeCycle i c, m =>
    some ((m.registry.removeCycle i c).1, { m with registry := (m.registry.removeCycle i c).2 })
  | .issueToken, m => some (m.tokens.issue.1, { m with tokens := m.tokens.issue.2 })
  | .fireToken t, m => some ((), { m with tokens := m.tokens.fire t })
  | .anyFired ts, m => some (m.tokens.anyFired ts, m)
  | _, _ => none

end Memory

end MessageGateway
