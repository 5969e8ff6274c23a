import MessageGateway.Dispatch

/-!
# The outbox

Texts can be sent later: submitting stores a queued record and then puts an event into the queue,
which workers take out and send. The store is the truth, and the queue may lose events: a sweep
puts back events for all records whose delivery is not over.

## Main definitions

* `EnqueueInput`, `submit`: accepting a text for later
* `processEvent`: sending what an event asks for
* `sweepOnce`: events for the records whose delivery is not over
-/

namespace MessageGateway

/-- A text to be sent later. -/
structure EnqueueInput where
  /-- The instance that sends it. -/
  owner : InstanceId
  /-- The destination as it was given. -/
  recipient : String
  /-- The name of the kind, which has to be that of texts. -/
  kind : String
  /-- The text. -/
  text : String
  deriving DecidableEq, Repr

open Program

/-- The input of a submission is complete and names the kind of texts. -/
def EnqueueInput.validate (input : EnqueueInput) : Except DispatchError Unit :=
  if input.owner.isBlank || input.recipient.isEmpty || input.text.isEmpty then
    .error (.invalidPayload "instance_id, to and text are required")
  else if MessageKind.parse? (Text.trim input.kind) = some .text then .ok ()
  else .error (.unsupportedMediaType input.kind)

/-- Stores a text for later and puts its event into the queue. When the queue does not take the
event, a sweep will find the record. -/
def submit (input : EnqueueInput) : Program (Except DispatchError Message) :=
  ExceptT.run do
    orFail (fun e => e) (pure input.validate)
    let id ← newMessageId
    let time ← now
    let m ← orFail .store (createMessage
      (.make id input.owner input.recipient .text input.text .queued time))
    let _ ← bestEffort (enqueue (.ofMessage m))
    return m

/-- Sends what an event asks for. When that can never succeed, the message is given up; after any
other failure its record stays as it is, for a sweep to find. -/
def processEvent (c : GatewayConfig) (e : QueueEvent) : Program Unit := do
  match SendInput.ofEvent e with
  | .error _ => let _ ← bestEffort (failPending e.id)
  | .ok input =>
    match ← send c input with
    | .ok _ => pure ()
    | .error failure =>
      if failure.error.kind = .permanent then
        let _ ← bestEffort (failPending e.id)

/-- Puts an event for each of the messages into the queue; the answer is how many it took. -/
def enqueueAll : List Message → Program Nat
  | [] => pure 0
  | m :: ms => do
    match ← enqueue (.ofMessage m) with
    | .ok () => return (← enqueueAll ms) + 1
    | .error _ => enqueueAll ms

/-- One sweep: events for the oldest records whose delivery is not over. -/
def sweepOnce (batch : Nat) : Program (Except StoreError Nat) := do
  match ← pendingMessages batch with
  | .ok ms => return .ok (← enqueueAll ms)
  | .error e => return .error e

end MessageGateway
