import MessageGateway.HistorySync.Payload
import MessageGateway.Instance
import MessageGateway.JsonForm.Basic

/-!
# JSON forms of the history sync

## Main definitions

* `Instance.toJson`, `Instance.ofJson?`
* `SyncPayload.toJson`, `SyncPayload.ofJson?`
* `SyncNotification.toJson`, `SyncNotification.ofJson?`
-/

namespace MessageGateway

/-- The JSON form of an instance record. -/
def Instance.toJson (r : Instance) : Json :=
  .obj [("id", r.id.toJson), ("status", .text r.status.name),
    ("history_sync_cycle_id", .opt Id.toJson r.cycle),
    ("history_sync_status", .text r.sync.name),
    ("history_sync_updated_at", .opt Timestamp.toJson r.syncUpdated)]

/-- The instance record of a JSON form. -/
def Instance.ofJson? (v : Json) : Option Instance := do
  let [id, status, cycle, sync, updated] ← v.slots?
    ["id", "status", "history_sync_cycle_id", "history_sync_status", "history_sync_updated_at"]
    | none
  return {
    id := ← id.required? InstanceId.ofJson?
    status := ← status.required? (Json.ofTable? InstanceStatus.table)
    cycle := ← cycle.optional? Id.ofJson?
    sync := ← sync.required? (Json.ofTable? SyncStatus.table)
    syncUpdated := ← updated.optional? Timestamp.ofJson? }

/-- The JSON form of a status. -/
def PayloadStatus.toJson (s : PayloadStatus) : Json :=
  .text s.name

/-- The status of a JSON form. -/
def PayloadStatus.ofJson? : Json → Option PayloadStatus :=
  Json.ofTable? table

/-- The JSON form of a stored announcement. -/
def SyncPayload.toJson (p : SyncPayload) : Json :=
  .obj [("id", p.id.toJson), ("instance_id", p.owner.toJson), ("payload_type", .text p.type),
    ("payload", .bytes p.payload), ("cycle_id", .opt Id.toJson p.cycle),
    ("status", p.status.toJson), ("created_at", p.created.toJson),
    ("processed_at", .opt Timestamp.toJson p.processed)]

/-- The stored announcement of a JSON form. -/
def SyncPayload.ofJson? (v : Json) : Option SyncPayload := do
  let [id, owner, type, payload, cycle, status, created, processed] ← v.slots?
    ["id", "instance_id", "payload_type", "payload", "cycle_id", "status", "created_at",
      "processed_at"] | none
  return {
    id := ← id.required? Id.ofJson?
    owner := ← owner.required? InstanceId.ofJson?
    type := ← type.required? Json.asText?
    payload := ← payload.required? Json.asBytes?
    cycle := ← cycle.optional? Id.ofJson?
    status := ← status.required? PayloadStatus.ofJson?
    created := ← created.required? Timestamp.ofJson?
    processed := ← processed.optional? Timestamp.ofJson? }

/-- The JSON form of what is read of an announcement. -/
def SyncNotification.toJson (n : SyncNotification) : Json :=
  .obj [("directPath", .text n.directPath), ("fileLength", .nat n.fileLength),
    ("syncType", .int n.syncType), ("chunkOrder", .nat n.chunkOrder)]

/-- What is read of an announcement in its JSON form; all of it may be missing. -/
def SyncNotification.ofJson? (v : Json) : Option SyncNotification := do
  let [path, length, type, order] ←
    v.slots? ["directPath", "fileLength", "syncType", "chunkOrder"] | none
  return {
    directPath := ← path.orElse? "" Json.asText?
    fileLength := ← length.orElse? 0 (Json.asNat? bound64)
    syncType := ← type.orElse? 0 (Json.asInt? (-0x80000000) 0x80000000)
    chunkOrder := ← order.orElse? 0 (Json.asNat? bound32) }

end MessageGateway
