import MessageGateway.Identifier
import MessageGateway.Time.Timestamp

/-!
# Instances

An instance is one tenant's connection to the network. A service outside the gateway keeps its
record; the gateway reads the status, lowers it to `error` when the session is gone, and writes
the fields of the history sync.

## Main definitions

* `InstanceStatus`, `SyncStatus`: the states of a connection and of its history sync
* `Instance`: the record
* `Instance.beginSync`, `Instance.finishSync`: the writes of the history sync
-/

namespace MessageGateway

/-- The state of a connection. -/
inductive InstanceStatus where
  /-- Not connected yet. -/
  | pending
  /-- Connected; only now may the instance send. -/
  | active
  /-- Connected before. -/
  | disconnected
  /-- The session was lost. -/
  | error
  deriving DecidableEq, Repr

/-- The name of the status. -/
def InstanceStatus.name : InstanceStatus → String
  | .pending => "pending"
  | .active => "active"
  | .disconnected => "disconnected"
  | .error => "error"

/-- The statuses under their names. -/
def InstanceStatus.table : List (String × InstanceStatus) :=
  [.pending, .active, .disconnected, .error].map fun s => (s.name, s)

/-- The state of a history sync. -/
inductive SyncStatus where
  /-- No cycle was started. -/
  | idle
  /-- A cycle is running. -/
  | running
  /-- The last cycle is complete. -/
  | completed
  deriving DecidableEq, Repr

/-- The name of the status. -/
def SyncStatus.name : SyncStatus → String
  | .idle => "idle"
  | .running => "running"
  | .completed => "completed"

/-- The statuses under their names. -/
def SyncStatus.table : List (String × SyncStatus) :=
  [.idle, .running, .completed].map fun s => (s.name, s)

/-- The record of one tenant's connection. -/
structure Instance where
  /-- The name of the instance. -/
  id : InstanceId
  /-- The state of the connection. -/
  status : InstanceStatus
  /-- The last cycle of the history sync that was started. -/
  cycle : Option CycleId
  /-- The state of the history sync. -/
  sync : SyncStatus
  /-- When the history sync last changed. -/
  syncUpdated : Option Timestamp
  deriving DecidableEq, Repr

namespace Instance

/-- A record on which no history sync was run. -/
def make (id : InstanceId) (status : InstanceStatus) : Instance :=
  { id, status, cycle := none, sync := .idle, syncUpdated := none }

/-- The instance may send. -/
def isActive (r : Instance) : Bool :=
  r.status == .active

/-- The record once the cycle `c` has begun. -/
def beginSync (r : Instance) (c : CycleId) (now : Timestamp) : Instance :=
  { r with cycle := some c, sync := .running, syncUpdated := some now }

/-- The record once the history sync has come to the status `s`. -/
def finishSync (r : Instance) (s : SyncStatus) (now : Timestamp) : Instance :=
  { r with sync := s, syncUpdated := some now }

end Instance

end MessageGateway
