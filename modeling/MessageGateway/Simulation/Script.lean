import MessageGateway.Content.Outbound
import MessageGateway.Dispatch.Error
import MessageGateway.DeliveryQueue

/-!
# Scripts

A simulation replaces the network by scripts, one for each instance, and lets chosen calls of the
stores and the queue fail.

## Main definitions

* `Script`: how the session of an instance behaves
* `Site`, `Fault`, `takeFault`: the calls that can be made to fail, and how often they do
-/

namespace MessageGateway.Simulation

/-- How the session of an instance behaves. -/
structure Script where
  /-- There is no session. -/
  missing : Bool := false
  /-- The network does not know the session. -/
  loggedOut : Bool := false
  /-- A cycle of the history sync that begins whenever the session is asked for. -/
  beginCycle : Option CycleId := none
  /-- How many looks find the session unready, whatever the time. -/
  unreadyLooks : Nat := 0
  /-- The time from which on the session is ready. -/
  readyAt : Nat := 0
  /-- The numbers that exist. -/
  registered : List String := []
  /-- What the network answers about numbers, whatever it is asked. -/
  probeResults : Option (List ExistenceResult) := none
  /-- Why questions about numbers fail. -/
  probeFailure : Option TransportError := none
  /-- Why uploads fail. -/
  uploadFailure : Option TransportError := none
  /-- Why showing presence fails. -/
  presenceFailure : Option TransportError := none
  /-- What comes of the next transmissions; later ones succeed. -/
  transmissions : List (Option TransportError) := []
  /-- How long a transmission takes. -/
  transmissionDelay : Nat := 0
  /-- How long showing presence takes. -/
  presenceDelay : Nat := 0
  /-- What the upload of some bytes is answered with. -/
  uploaded : List UInt8 → UploadResult := fun data =>
    { url := "", directPath := "", mediaKey := [], encryptedHash := [], fileHash := []
      fileLength := data.length }

namespace Script

/-- The server at which the network's users are. -/
def networkServer : String := "s.whatsapp.net"

/-- The answer about the given numbers. -/
def existence (s : Script) (numbers : List String) : Except TransportError (List ExistenceResult) :=
  match s.probeFailure, s.probeResults with
  | some e, _ => .error e
  | none, some results => .ok results
  | none, none =>
    .ok (numbers.map fun n => ⟨n, ⟨n, networkServer⟩, s.registered.contains n⟩)

/-- The answer to the upload of a file. -/
def upload (s : Script) (data : List UInt8) : Except TransportError UploadResult :=
  match s.uploadFailure with
  | some e => .error e
  | none => .ok (s.uploaded data)

end Script

/-- A call that can be made to fail. -/
inductive Site where
  /-- A message record. -/
  | findMessage
  /-- A new message record. -/
  | createMessage
  /-- An overwritten message record. -/
  | updateMessage
  /-- The message records whose delivery is not over. -/
  | pendingMessages
  /-- The message records of an instance. -/
  | messagesOf
  /-- An instance record. -/
  | findInstance
  /-- An overwritten instance record. -/
  | updateInstance
  /-- The end of a cycle. -/
  | finishCycle
  /-- A new payload. -/
  | createPayload
  /-- The unprocessed payloads of an instance. -/
  | payloadsOfInstance
  /-- The unprocessed payloads of a cycle. -/
  | payloadsOfCycle
  /-- The status of a payload. -/
  | markPayload
  /-- The end of all payloads of an instance. -/
  | purgePayloads
  /-- An event for the queue. -/
  | enqueue
  /-- An event from the queue. -/
  | dequeue
  deriving DecidableEq, Repr

/-- The sites under their names. -/
def Site.table : List (String × Site) :=
  [("messages.get", .findMessage), ("messages.create", .createMessage),
    ("messages.update", .updateMessage), ("messages.get_pending", .pendingMessages),
    ("messages.list_by_instance", .messagesOf), ("instances.get_by_id", .findInstance),
    ("instances.update", .updateInstance), ("instances.finish", .finishCycle),
    ("history.create", .createPayload), ("history.by_instance", .payloadsOfInstance),
    ("history.by_cycle", .payloadsOfCycle), ("history.status", .markPayload),
    ("history.delete", .purgePayloads), ("queue.enqueue", .enqueue), ("queue.dequeue", .dequeue)]

/-- What a failing call answers. -/
inductive Trouble where
  /-- The error of a store. -/
  | store (e : StoreError)
  /-- The error of the queue. -/
  | queue (e : QueueError)
  deriving DecidableEq, Repr

/-- Calls of one site that fail. -/
structure Fault where
  /-- The site. -/
  site : Site
  /-- How many calls pass before the first that fails. -/
  skip : Nat
  /-- How many calls fail. -/
  times : Nat
  /-- What they answer. -/
  trouble : Trouble
  deriving DecidableEq, Repr

/-- What a call of the site meets: only the first fault of the site counts, until it is used up. -/
def takeFault (site : Site) : List Fault → Option Trouble × List Fault
  | [] => (none, [])
  | f :: fs =>
    if f.site ≠ site then
      let (met, fs) := takeFault site fs
      (met, f :: fs)
    else
      match f.skip, f.times with
      | skip + 1, _ => (none, { f with skip } :: fs)
      | 0, 0 => takeFault site fs
      | 0, 1 => (some f.trouble, fs)
      | 0, times + 2 => (some f.trouble, { f with times := times + 1 } :: fs)

end MessageGateway.Simulation
