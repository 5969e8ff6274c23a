import MessageGateway.Dispatch
import MessageGateway.JsonForm.Config
import MessageGateway.JsonForm.HistorySync
import MessageGateway.JsonForm.Message
import MessageGateway.Proofs.JsonForm.Content

/-!
# Records are read back

Everything that the gateway stores, hands to its queue or is configured with survives being written
as JSON and read again: any text, any identifier, any bytes, the numbers of the fields' types, and
the times that can be written.

## Main definitions

* `Message.Fits`, `Instance.Fits`, `GatewayConfig.Fits`, ...: the times can be written, and the
  numbers are those of the fields' types

## Main results

* `QueueEvent.ofJson?_make`: an event that the gateway made is read back
* `records_survive`: all of this together
-/

namespace MessageGateway

open Json (Survives)

/-! ## Names of statuses and kinds -/

@[simp] theorem MessageStatus.ofJson?_toJson (s : MessageStatus) : ofJson? s.toJson = some s := by
  cases s <;> rfl

@[simp] theorem MessageKind.ofJson?_toJson (k : MessageKind) : ofJson? k.toJson = some k := by
  cases k <;> rfl

@[simp] theorem PayloadStatus.ofJson?_toJson (s : PayloadStatus) : ofJson? s.toJson = some s := by
  cases s <;> rfl

@[simp] theorem InstanceStatus.ofTable?_name (s : InstanceStatus) :
    Json.ofTable? table (.text s.name) = some s := by
  cases s <;> rfl

@[simp] theorem SyncStatus.ofTable?_name (s : SyncStatus) :
    Json.ofTable? table (.text s.name) = some s := by
  cases s <;> rfl

@[simp] theorem MessageStatus.isWritable_toJson (s : MessageStatus) : s.toJson.IsWritable :=
  Json.isWritable_text _

@[simp] theorem MessageKind.isWritable_toJson (k : MessageKind) : k.toJson.IsWritable :=
  Json.isWritable_text _

@[simp] theorem PayloadStatus.isWritable_toJson (s : PayloadStatus) : s.toJson.IsWritable :=
  Json.isWritable_text _

/-! ## Messages -/

/-- The times of the record can be written. -/
structure Message.Fits (m : Message) : Prop where
  /-- When the record was made. -/
  created : m.created.InRange
  /-- When its status was last written. -/
  updated : m.updated.InRange

namespace Message

variable {m : Message}

theorem isWritable_toJson (m : Message) : m.toJson.IsWritable := by
  simp [toJson]

theorem ofJson?_toJson (h : m.Fits) : ofJson? m.toJson = some m := by
  have fields : m.toJson.slots?
      ["id", "instance_id", "to", "kind", "payload", "status", "created_at", "updated_at"] =
      some [.given m.id.toJson, .given m.owner.toJson, .given (.text m.recipient),
        .given m.kind.toJson, .given (.text m.payload), .given m.status.toJson,
        .given m.created.toJson, .given m.updated.toJson] :=
    Json.slots?_obj rfl (by decide)
  simp [ofJson?, fields, Timestamp.ofJson?_toJson h.created, Timestamp.ofJson?_toJson h.updated]

end Message

/-- The counts are numbers of 64 bits. -/
structure MessageCounts.Fits (c : MessageCounts) : Prop where
  /-- Records that wait for delivery. -/
  queued : c.queued < bound64
  /-- Records being delivered. -/
  sending : c.sending < bound64
  /-- Delivered records. -/
  sent : c.sent < bound64
  /-- Records whose delivery failed. -/
  failed : c.failed < bound64

namespace MessageCounts

variable {c : MessageCounts}

theorem isWritable_toJson (c : MessageCounts) : c.toJson.IsWritable := by
  simp [toJson]

theorem ofJson?_toJson (h : c.Fits) : ofJson? c.toJson = some c := by
  have fields : c.toJson.slots? ["queued", "sending", "sent", "failed"] =
      some [.given (.nat c.queued), .given (.nat c.sending), .given (.nat c.sent),
        .given (.nat c.failed)] :=
    Json.slots?_obj rfl (by decide)
  simp -implicitDefEqProofs [ofJson?, fields, Json.asNat?_nat h.queued, Json.asNat?_nat h.sending,
    Json.asNat?_nat h.sent, Json.asNat?_nat h.failed]

end MessageCounts

namespace EnqueueInput

theorem isWritable_toJson (input : EnqueueInput) : input.toJson.IsWritable := by
  simp [toJson]

theorem ofJson?_toJson (input : EnqueueInput) : ofJson? input.toJson = some input := by
  have fields : input.toJson.slots? ["instance_id", "to", "type", "text"] =
      some [.given input.owner.toJson, .given (.text input.recipient), .given (.text input.kind),
        .given (.text input.text)] :=
    Json.slots?_obj rfl (by decide)
  simp [ofJson?, fields]

end EnqueueInput

/-! ## Queue events -/

namespace QueueEvent

variable {created : Timestamp}

/-- The keys of the map are in ascending order. -/
theorem make_eq (id : MessageId) (owner : InstanceId) (kind recipient text : String)
    (created : Timestamp) : make id owner kind recipient text created =
      { id, owner, kind, created
        payload := [(textKey, .text text), (recipientKey, .text recipient)] } := by
  have different : textKey ≠ recipientKey := by decide
  have before : textKey < recipientKey := by decide
  simp [make, Value.insert, different, before]

theorem payload?_toJson (recipient text : String) :
    payload? (Value.map [(textKey, .text text), (recipientKey, .text recipient)]).toJson =
      some [(textKey, .text text), (recipientKey, .text recipient)] := by
  have different : recipientKey ≠ textKey := by decide
  have after : ¬recipientKey < textKey := by decide
  simp [payload?, payloadDepth, Value.toJson, Value.membersToJson, Value.ofJson?,
    Value.ofMembers?, Value.insert, different, after]

theorem isWritable_make (id : MessageId) (owner : InstanceId) (kind recipient text : String)
    (created : Timestamp) : (make id owner kind recipient text created).toJson.IsWritable := by
  rw [make_eq]
  simp [toJson, Value.toJson, Value.membersToJson]

/-- An event that the gateway made is read back. -/
theorem ofJson?_make (id : MessageId) (owner : InstanceId) (kind recipient text : String)
    (h : created.InRange) : ofJson? (make id owner kind recipient text created).toJson =
      some (make id owner kind recipient text created) := by
  rw [make_eq]
  have fields : (toJson ⟨id, owner, kind, [(textKey, .text text), (recipientKey, .text recipient)],
      created⟩).slots? ["id", "instance_id", "type", "payload", "created_at"] =
      some [.given id.toJson, .given owner.toJson, .given (.text kind),
        .given (Value.map [(textKey, .text text), (recipientKey, .text recipient)]).toJson,
        .given created.toJson] :=
    Json.slots?_obj rfl (by decide)
  simp [ofJson?, fields, payload?_toJson, Timestamp.ofJson?_toJson h]

/-- The event is one that the gateway makes, of a submission or of a stored message. -/
def IsMade (e : QueueEvent) : Prop :=
  (∃ id owner kind recipient text, e = make id owner kind recipient text e.created) ∨
    ∃ m, e = ofMessage m

/-- **An event that the gateway made** survives. -/
theorem survives {e : QueueEvent} (made : e.IsMade) (h : e.created.InRange) :
    Survives toJson ofJson? e := by
  rcases made with ⟨id, owner, kind, recipient, text, eq⟩ | ⟨m, rfl⟩
  · rw [eq]
    exact .intro (isWritable_make _ _ _ _ _ _) (ofJson?_make _ _ _ _ _ h)
  · exact .intro (isWritable_make _ _ _ _ _ _) (ofJson?_make _ _ _ _ _ h)

end QueueEvent

/-! ## The history sync -/

/-- The time can be written. -/
def Instance.Fits (r : Instance) : Prop :=
  ∀ t, r.syncUpdated = some t → t.InRange

namespace Instance

variable {r : Instance}

theorem isWritable_toJson (r : Instance) : r.toJson.IsWritable := by
  simp [toJson]

theorem ofJson?_toJson (h : r.Fits) : ofJson? r.toJson = some r := by
  have fields : r.toJson.slots?
      ["id", "status", "history_sync_cycle_id", "history_sync_status", "history_sync_updated_at"] =
      some [.given r.id.toJson, .given (.text r.status.name), .given (.opt Id.toJson r.cycle),
        .given (.text r.sync.name), .given (.opt Timestamp.toJson r.syncUpdated)] :=
    Json.slots?_obj rfl (by decide)
  simp [ofJson?, fields, Timestamp.asOption?_toJson h]

end Instance

/-- The times can be written. -/
structure SyncPayload.Fits (p : SyncPayload) : Prop where
  /-- When it came. -/
  created : p.created.InRange
  /-- When it was processed. -/
  processed : ∀ t, p.processed = some t → t.InRange

namespace SyncPayload

variable {p : SyncPayload}

theorem isWritable_toJson (p : SyncPayload) : p.toJson.IsWritable := by
  simp [toJson]

theorem ofJson?_toJson (h : p.Fits) : ofJson? p.toJson = some p := by
  have fields : p.toJson.slots?
      ["id", "instance_id", "payload_type", "payload", "cycle_id", "status", "created_at",
        "processed_at"] =
      some [.given p.id.toJson, .given p.owner.toJson, .given (.text p.type),
        .given (.bytes p.payload), .given (.opt Id.toJson p.cycle), .given p.status.toJson,
        .given p.created.toJson, .given (.opt Timestamp.toJson p.processed)] :=
    Json.slots?_obj rfl (by decide)
  simp [ofJson?, fields, Timestamp.ofJson?_toJson h.created, Timestamp.asOption?_toJson h.processed]

end SyncPayload

/-- The numbers are those of their types. -/
structure SyncNotification.Fits (n : SyncNotification) : Prop where
  /-- How long it is. -/
  fileLength : n.fileLength < bound64
  /-- Which part of the history it is. -/
  syncType : -0x80000000 ≤ n.syncType ∧ n.syncType < 0x80000000
  /-- Its place among the parts. -/
  chunkOrder : n.chunkOrder < bound32

namespace SyncNotification

variable {n : SyncNotification}

theorem isWritable_toJson (n : SyncNotification) : n.toJson.IsWritable := by
  simp [toJson]

theorem ofJson?_toJson (h : n.Fits) : ofJson? n.toJson = some n := by
  have fields : n.toJson.slots? ["directPath", "fileLength", "syncType", "chunkOrder"] =
      some [.given (.text n.directPath), .given (.nat n.fileLength), .given (.int n.syncType),
        .given (.nat n.chunkOrder)] :=
    Json.slots?_obj rfl (by decide)
  simp -implicitDefEqProofs [ofJson?, fields, Json.asNat?_nat h.fileLength,
    Json.asInt?_int h.syncType, Json.asNat?_nat h.chunkOrder]

end SyncNotification

/-! ## Configurations -/

/-- The durations are numbers of 64 bits. -/
structure DispatchConfig.Fits (c : DispatchConfig) : Prop where
  /-- The longest wait. -/
  readyTimeout : c.readyTimeout < bound64
  /-- The pause between two looks. -/
  pollInterval : c.pollInterval < bound64
  /-- The wait before presence is shown. -/
  presenceAfter : c.presenceAfter < bound64

theorem DispatchConfig.ofJson?_toJson {c : DispatchConfig} (h : c.Fits) :
    ofJson? c.toJson = some c := by
  have fields : c.toJson.slots?
      ["ready_timeout_ms", "ready_poll_interval_ms", "presence_probe_after_ms"] =
      some [.given (.nat c.readyTimeout), .given (.nat c.pollInterval),
        .given (.nat c.presenceAfter)] :=
    Json.slots?_obj rfl (by decide)
  simp -implicitDefEqProofs [ofJson?, fields, Json.asNat?_nat h.readyTimeout,
    Json.asNat?_nat h.pollInterval, Json.asNat?_nat h.presenceAfter]

/-- The numbers are those of 64 bits. -/
structure OutboxConfig.Fits (c : OutboxConfig) : Prop where
  /-- The number of workers. -/
  workers : c.workers < bound64
  /-- How long a worker waits for an event. -/
  dequeueTimeout : c.dequeueTimeout < bound64
  /-- The pause between two sweeps. -/
  recoveryInterval : c.recoveryInterval < bound64
  /-- The most records of a sweep. -/
  recoveryBatch : c.recoveryBatch < bound64

theorem OutboxConfig.ofJson?_toJson {c : OutboxConfig} (h : c.Fits) :
    ofJson? c.toJson = some c := by
  have fields : c.toJson.slots?
      ["workers", "dequeue_timeout_ms", "recovery_interval_ms", "recovery_batch"] =
      some [.given (.nat c.workers), .given (.nat c.dequeueTimeout),
        .given (.nat c.recoveryInterval), .given (.nat c.recoveryBatch)] :=
    Json.slots?_obj rfl (by decide)
  simp -implicitDefEqProofs [ofJson?, fields, Json.asNat?_nat h.workers,
    Json.asNat?_nat h.dequeueTimeout, Json.asNat?_nat h.recoveryInterval,
    Json.asNat?_nat h.recoveryBatch]

theorem HistorySyncConfig.ofJson?_toJson {c : HistorySyncConfig} (h : c.completionDelay < bound64) :
    ofJson? c.toJson = some c := by
  have fields : c.toJson.slots? ["completion_delay_ms"] = some [.given (.nat c.completionDelay)] :=
    Json.slots?_obj rfl (by decide)
  simp -implicitDefEqProofs [ofJson?, fields, Json.asNat?_nat h]

theorem ResolverConfig.ofJson?_toJson (c : ResolverConfig) : ofJson? c.toJson = some c := by
  have fields : c.toJson.slots? ["default_country_prefix", "user_server", "mobile_digit"] =
      some [.given (.text c.countryCode), .given (.text c.userServer),
        .given (.text (String.singleton c.mobileDigit))] :=
    Json.slots?_obj rfl (by decide)
  simp [ofJson?, fields]

/-- The numbers of the configuration are those of their types. -/
structure GatewayConfig.Fits (c : GatewayConfig) : Prop where
  /-- How long a send waits for its session. -/
  dispatch : c.dispatch.Fits
  /-- How queued messages are worked on. -/
  outbox : c.outbox.Fits
  /-- How long history-sync cycles take. -/
  completionDelay : c.historySync.completionDelay < bound64

namespace GatewayConfig

variable {c : GatewayConfig}

theorem isWritable_toJson (c : GatewayConfig) : c.toJson.IsWritable := by
  simp [toJson, DispatchConfig.toJson, OutboxConfig.toJson, HistorySyncConfig.toJson,
    ResolverConfig.toJson]

theorem ofJson?_toJson (h : c.Fits) : ofJson? c.toJson = some c := by
  have fields : c.toJson.slots? ["dispatch", "outbox", "history_sync", "resolver"] =
      some [.given c.dispatch.toJson, .given c.outbox.toJson, .given c.historySync.toJson,
        .given c.resolver.toJson] :=
    Json.slots?_obj rfl (by decide)
  simp -implicitDefEqProofs [ofJson?, fields, DispatchConfig.ofJson?_toJson h.dispatch,
    OutboxConfig.ofJson?_toJson h.outbox, HistorySyncConfig.ofJson?_toJson h.completionDelay,
    ResolverConfig.ofJson?_toJson]

end GatewayConfig

/-! ## All of them -/

/-- **Records survive** being written as JSON and read again, and a worker that takes such an event
from its queue sends the same. -/
theorem records_survive :
    (∀ m : Message, m.Fits → Survives Message.toJson Message.ofJson? m) ∧
    (∀ r : Instance, r.Fits → Survives Instance.toJson Instance.ofJson? r) ∧
    (∀ p : SyncPayload, p.Fits → Survives SyncPayload.toJson SyncPayload.ofJson? p) ∧
    (∀ c : Content, c.Fits → Survives Content.toJson Content.ofJson? c) ∧
    (∀ r : SendRequest, r.Fits → Survives SendRequest.toJson SendRequest.ofJson? r) ∧
    (∀ m : Outbound, m.Fits → Survives Outbound.toJson Outbound.ofJson? m) ∧
    (∀ i : EnqueueInput, Survives EnqueueInput.toJson EnqueueInput.ofJson? i) ∧
    (∀ u : UploadResult, u.Fits → Survives UploadResult.toJson UploadResult.ofJson? u) ∧
    (∀ r : ExistenceResult, Survives ExistenceResult.toJson ExistenceResult.ofJson? r) ∧
    (∀ a : Address, Survives Address.toJson Address.ofJson? a) ∧
    (∀ c : MessageCounts, c.Fits → Survives MessageCounts.toJson MessageCounts.ofJson? c) ∧
    (∀ n : SyncNotification, n.Fits →
      Survives SyncNotification.toJson SyncNotification.ofJson? n) ∧
    (∀ c : GatewayConfig, c.Fits → Survives GatewayConfig.toJson GatewayConfig.ofJson? c) ∧
    ∀ e : QueueEvent, e.IsMade → e.created.InRange →
      Survives QueueEvent.toJson QueueEvent.ofJson? e ∧
      (Json.restored? QueueEvent.toJson QueueEvent.ofJson? e).map SendInput.ofEvent =
        some (SendInput.ofEvent e) := by
  refine ⟨fun m h => ?message, fun r h => ?inst, fun p h => ?payload, fun c h => ?content,
    fun r h => ?request, fun m h => ?outbound, fun i => ?input, fun u h => ?upload,
    fun r => ?existence, fun a => ?address, fun c h => ?counts, fun n h => ?notification,
    fun c h => ?config, fun e made h => ?event⟩
  case message => exact .intro m.isWritable_toJson (Message.ofJson?_toJson h)
  case inst => exact .intro r.isWritable_toJson (Instance.ofJson?_toJson h)
  case payload => exact .intro p.isWritable_toJson (SyncPayload.ofJson?_toJson h)
  case content => exact .intro c.isWritable_toJson (Content.ofJson?_toJson h)
  case request => exact .intro r.isWritable_toJson (SendRequest.ofJson?_toJson h)
  case outbound => exact .intro m.isWritable_toJson (Outbound.ofJson?_toJson h)
  case input => exact .intro i.isWritable_toJson i.ofJson?_toJson
  case upload => exact .intro u.isWritable_toJson (UploadResult.ofJson?_toJson h)
  case existence => exact .intro r.isWritable_toJson r.ofJson?_toJson
  case address => exact .intro a.isWritable_toJson a.ofJson?_toJson
  case counts => exact .intro c.isWritable_toJson (MessageCounts.ofJson?_toJson h)
  case notification => exact .intro n.isWritable_toJson (SyncNotification.ofJson?_toJson h)
  case config => exact .intro c.isWritable_toJson (GatewayConfig.ofJson?_toJson h)
  case event =>
    have survives := QueueEvent.survives made h
    refine ⟨survives, ?_⟩
    rw [survives, Option.map_some]

namespace Sample

/-- A text of a quote, a backslash, control characters and characters beyond ASCII. -/
def text : String := "\"\\/\n\x00\x1f\x7fé한😀"

/-- The last millisecond of the year 9999. -/
def late : Timestamp := .ofMillis 253402300799999

/-- The first millisecond of the year 1. -/
def early : Timestamp := .ofMillis (-62135596800000)

theorem late_inRange : late.InRange :=
  Timestamp.inRange_ofMillis (by decide) (by decide)

theorem early_inRange : early.InRange :=
  Timestamp.inRange_ofMillis (by decide) (by decide)

/-- The record of a message. -/
def message : Message :=
  .make ⟨.allOnes 128⟩ ⟨text⟩ text .document text .failed late

/-- The record of an instance. -/
def instanceRecord : Instance :=
  { id := ⟨text⟩, status := .disconnected, cycle := some ⟨0⟩, sync := .completed,
    syncUpdated := some early }

/-- A stored announcement. -/
def payload : SyncPayload :=
  { id := ⟨0⟩, owner := ⟨""⟩, type := text, payload := [0, 255], cycle := none, status := .done,
    created := early, processed := some late }

/-- An upload. -/
def upload : UploadResult :=
  ⟨text, "", [255], [], [0], 0xFFFFFFFFFFFFFFFF⟩

/-- A voice note. -/
def sound : AudioEnvelope :=
  { media := ⟨upload, text, none⟩, voiceNote := true, seconds := 0xFFFFFFFF,
    waveform := some [], sidecar := none, keyTime := -0x8000000000000000 }

end Sample

/-- Records at the ends of the ranges of their fields. -/
theorem records_survive_extremes :
    Survives Message.toJson Message.ofJson? Sample.message ∧
    Survives Instance.toJson Instance.ofJson? Sample.instanceRecord ∧
    Survives SyncPayload.toJson SyncPayload.ofJson? Sample.payload ∧
    Survives Content.toJson Content.ofJson? (.audio ⟨[0], Sample.text⟩ true 0xFFFFFFFF) ∧
    Survives SendRequest.toJson SendRequest.ofJson? { kind := Sample.text, seconds := 0xFFFFFFFF } ∧
    Survives Outbound.toJson Outbound.ofJson? (.audio Sample.sound) ∧
    Survives UploadResult.toJson UploadResult.ofJson? Sample.upload ∧
    Survives MessageCounts.toJson MessageCounts.ofJson? ⟨0, 1, 2, 0xFFFFFFFFFFFFFFFF⟩ ∧
    Survives SyncNotification.toJson SyncNotification.ofJson?
      ⟨Sample.text, 0xFFFFFFFFFFFFFFFF, -0x80000000, 0xFFFFFFFF⟩ ∧
    Survives GatewayConfig.toJson GatewayConfig.ofJson? {} ∧
    Survives QueueEvent.toJson QueueEvent.ofJson? (.ofMessage Sample.message) := by
  obtain ⟨messages, instances, payloads, contents, requests, outbound, -, uploads, -, -, counts,
    notifications, configs, events⟩ := records_survive
  refine ⟨messages _ ⟨Sample.late_inRange, Sample.late_inRange⟩, instances _ ?_, payloads _ ?_,
    contents _ ?_, requests _ ?_, outbound _ ?_, uploads _ ?_, counts _ ?_, notifications _ ?_,
    configs _ ?_, (events (.ofMessage Sample.message) (.inr ⟨_, rfl⟩) Sample.late_inRange).1⟩
  · rintro _ ⟨⟩
    exact Sample.early_inRange
  · refine ⟨Sample.early_inRange, ?_⟩
    rintro _ ⟨⟩
    exact Sample.late_inRange
  · show 0xFFFFFFFF < bound32
    decide
  · show 0xFFFFFFFF < bound32
    decide
  · exact ⟨by unfold UploadResult.Fits; decide, by decide, by decide⟩
  · unfold UploadResult.Fits
    decide
  · exact ⟨by decide, by decide, by decide, by decide⟩
  · exact ⟨by decide, by decide, by decide⟩
  · exact ⟨⟨by decide, by decide, by decide⟩, ⟨by decide, by decide, by decide, by decide⟩,
      by decide⟩

end MessageGateway
