import MessageGateway.Identifier
import MessageGateway.Time.Timestamp

/-!
# History-sync payloads

The network announces parts of an instance's history. Each announcement is stored as a payload and
processed later; most of what it says is not read at all.

## Main definitions

* `PayloadStatus`, `SyncPayload`: a stored announcement and whether it was processed
* `SyncNotification`: the part of an announcement that is read
-/

namespace MessageGateway

/-- Whether a stored announcement was processed. -/
inductive PayloadStatus where
  /-- Not processed yet. -/
  | pending
  /-- Processed. -/
  | done
  deriving DecidableEq, Repr

/-- The name of the status. -/
def PayloadStatus.name : PayloadStatus → String
  | .pending => "pending"
  | .done => "done"

/-- The statuses under their names. -/
def PayloadStatus.table : List (String × PayloadStatus) :=
  [.pending, .done].map fun s => (s.name, s)

/-- A stored announcement. -/
structure SyncPayload where
  /-- The name of the record. -/
  id : PayloadId
  /-- The instance whose history it is about. -/
  owner : InstanceId
  /-- The type of the announcement. -/
  type : String
  /-- The announcement as it came. -/
  payload : List UInt8
  /-- The cycle that was current when it came, if any. -/
  cycle : Option CycleId
  /-- Whether it was processed. -/
  status : PayloadStatus
  /-- When it came. -/
  created : Timestamp
  /-- When it was processed. -/
  processed : Option Timestamp
  deriving DecidableEq, Repr

namespace SyncPayload

/-- The type under which the network's announcements are stored. -/
def notificationType : String := "HistorySyncNotification"

/-- An announcement that has just come. -/
def make (id : PayloadId) (owner : InstanceId) (type : String) (payload : List UInt8)
    (cycle : Option CycleId) (now : Timestamp) : SyncPayload :=
  { id, owner, type, payload, cycle, status := .pending, created := now, processed := none }

/-- The announcement was not processed yet. -/
def isPending (p : SyncPayload) : Bool :=
  p.status == .pending

end SyncPayload

/-- What is read of an announcement; whatever it does not say has the default. -/
structure SyncNotification where
  /-- Where the history can be fetched. -/
  directPath : String := ""
  /-- How long it is. -/
  fileLength : Nat := 0
  /-- Which part of the history it is. -/
  syncType : Int := 0
  /-- Its place among the parts. -/
  chunkOrder : Nat := 0
  deriving DecidableEq, Repr

end MessageGateway
