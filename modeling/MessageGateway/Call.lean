import MessageGateway.Content
import MessageGateway.DeliveryQueue
import MessageGateway.HistorySync.Error
import MessageGateway.HistorySync.Payload
import MessageGateway.HistorySync.Registry
import MessageGateway.Instance

/-!
# Calls

Everything that an operation of the gateway asks of something else is a call: of the stores, the
session gateway and its sessions, the queue, the registry of cycles, the clocks, the sources of
identifiers and of random words, and the scheduler of tasks. Each call is atomic and has one
answer.

## Main definitions

* `Activity`: a task that the gateway runs beside its callers, and where it stands
* `Wake`: why a pause ended
* `Call`, `Call.Answer`: a call, and the type of its answer
-/

namespace MessageGateway

/-- Where a worker stands between two calls of the queue. -/
inductive WorkerPhase where
  /-- It is about to ask for an event. -/
  | fetch
  /-- It has asked, and waits until `deadline`. -/
  | poll (deadline : Nat)
  deriving DecidableEq, Repr

/-- A task that the gateway runs beside its callers. It stops when one of its tokens is fired. -/
inductive Activity where
  /-- A worker on the queue. -/
  | worker (stops : List Token) (phase : WorkerPhase)
  /-- The recovery sweep, and when it is due next if that is known. -/
  | sweeper (stops : List Token) (due : Option Nat)
  /-- A cycle of an instance's history sync. -/
  | cycle (i : InstanceId) (h : CycleHandle)
  deriving DecidableEq, Repr

/-- Why a pause ended. When several reasons hold, the first one counts. -/
inductive Wake where
  /-- A token was fired. -/
  | stopped
  /-- The queue has an event or was closed. -/
  | notified
  /-- The time was up. -/
  | elapsed
  deriving DecidableEq, Repr

/-- A task, by its place among all tasks. -/
abbrev TaskId := Nat

/-- A call of something outside the operation. -/
inductive Call where
  /-- The message record of this name. -/
  | findMessage (id : MessageId)
  /-- A new message record. -/
  | createMessage (m : Message)
  /-- A message record in the place of that of its name. -/
  | updateMessage (m : Message)
  /-- The message records whose delivery is not over. -/
  | pendingMessages (limit : Nat)
  /-- The message records of an instance. -/
  | messagesOf (i : InstanceId)
  /-- The record of an instance. -/
  | findInstance (i : InstanceId)
  /-- An instance record in the place of that of its name. -/
  | updateInstance (r : Instance)
  /-- The end of a cycle, if it is still the stored one. -/
  | finishCycle (i : InstanceId) (c : CycleId) (status : SyncStatus) (now : Timestamp)
  /-- A new payload. -/
  | createPayload (p : SyncPayload)
  /-- The unprocessed payloads of an instance, or of one of its cycles. -/
  | pendingPayloads (i : InstanceId) (c : Option CycleId)
  /-- The status of a payload. -/
  | markPayload (id : PayloadId) (status : PayloadStatus) (processed : Option Timestamp)
  /-- The end of all payloads of an instance. -/
  | purgePayloads (i : InstanceId)
  /-- The processing of a payload. -/
  | processPayload (p : SyncPayload)
  /-- The session of an instance. -/
  | openSession (i : InstanceId)
  /-- Whether the session of an instance can encrypt. -/
  | sessionReady (i : InstanceId)
  /-- The instance shows presence on its session. -/
  | showPresence (i : InstanceId)
  /-- Which of the numbers exist, asked on the session of an instance. -/
  | probe (i : InstanceId) (numbers : List String)
  /-- The upload of a file on the session of an instance. -/
  | upload (i : InstanceId) (data : List UInt8) (category : MediaCategory)
  /-- The transmission of a message on the session of an instance. -/
  | transmit (i : InstanceId) (recipient : Address) (m : Outbound)
  /-- An event at the end of the queue. -/
  | enqueue (e : QueueEvent)
  /-- A try to take an event; `again` tells that the taker has tried before and waited. -/
  | passQueue (again : Bool)
  /-- The first event of the queue, if there is one now. -/
  | popQueue
  /-- The handle of the cycle that runs on an instance. -/
  | findHandle (i : InstanceId)
  /-- A new handle for an instance, in the place of the one it has. -/
  | mountHandle (i : InstanceId) (h : CycleHandle)
  /-- The end of an instance's handle. -/
  | removeHandle (i : InstanceId)
  /-- The end of an instance's handle, if it is that of the cycle. -/
  | removeCycle (i : InstanceId) (c : CycleId)
  /-- A new token. -/
  | issueToken
  /-- The firing of a token. -/
  | fireToken (t : Token)
  /-- Whether one of the tokens has been fired. -/
  | anyFired (ts : List Token)
  /-- The time. -/
  | now
  /-- The milliseconds since some fixed moment, on a clock that never goes back. -/
  | elapsed
  /-- A pause until a moment of that clock, until one of the tokens is fired, or, when `listening`,
  until the queue may have an event. -/
  | pause (deadline : Option Nat) (stops : List Token) (listening : Bool)
  /-- A new name for a message. -/
  | newMessageId
  /-- A new name for a cycle. -/
  | newCycleId
  /-- A new name for a payload. -/
  | newPayloadId
  /-- Random words. -/
  | randomWords (count : Nat)
  /-- A new task. -/
  | spawn (a : Activity)

/-- The type of the answer to a call. -/
def Call.Answer : Call → Type
  | .findMessage _ => Except StoreError (Option Message)
  | .createMessage _ => Except StoreError Message
  | .updateMessage _ => Except StoreError Unit
  | .pendingMessages _ => Except StoreError (List Message)
  | .messagesOf _ => Except StoreError (List Message)
  | .findInstance _ => Except StoreError Instance
  | .updateInstance _ => Except StoreError Instance
  | .finishCycle .. => Except StoreError (Option Instance)
  | .createPayload _ => Except StoreError SyncPayload
  | .pendingPayloads .. => Except StoreError (List SyncPayload)
  | .markPayload .. => Except StoreError Unit
  | .purgePayloads _ => Except StoreError Unit
  | .processPayload _ => Except SyncError Unit
  | .openSession _ => Except TransportError Session
  | .sessionReady _ => Bool
  | .showPresence _ => Except TransportError Unit
  | .probe .. => Except TransportError (List ExistenceResult)
  | .upload .. => Except TransportError UploadResult
  | .transmit .. => Except TransportError Unit
  | .enqueue _ => Except QueueError Unit
  | .passQueue _ => Pass
  | .popQueue => Option QueueEvent
  | .findHandle _ => Option CycleHandle
  | .mountHandle .. => Option CycleHandle
  | .removeHandle _ => Option CycleHandle
  | .removeCycle .. => Option CycleHandle
  | .issueToken => Token
  | .fireToken _ => Unit
  | .anyFired _ => Bool
  | .now => Timestamp
  | .elapsed => Nat
  | .pause .. => Wake
  | .newMessageId => MessageId
  | .newCycleId => CycleId
  | .newPayloadId => PayloadId
  | .randomWords _ => List UInt64
  | .spawn _ => TaskId

end MessageGateway
