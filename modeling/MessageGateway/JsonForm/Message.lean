import MessageGateway.JsonForm.Basic
import MessageGateway.Message
import MessageGateway.Outbox
import MessageGateway.QueueEvent

/-!
# JSON forms of messages and queue events

## Main definitions

* `MessageStatus.toJson`, `MessageKind.toJson`, and back
* `Message.toJson`, `Message.ofJson?`
* `MessageCounts.toJson`, `MessageCounts.ofJson?`
* `QueueEvent.toJson`, `QueueEvent.ofJson?`
* `EnqueueInput.toJson`, `EnqueueInput.ofJson?`
-/

namespace MessageGateway

/-- The JSON form of a status. -/
def MessageStatus.toJson (s : MessageStatus) : Json :=
  .text s.name

/-- The status of a JSON form. -/
def MessageStatus.ofJson? : Json → Option MessageStatus :=
  Json.ofTable? table

/-- The JSON form of a kind. -/
def MessageKind.toJson (k : MessageKind) : Json :=
  .text k.name

/-- The kind of a JSON form. -/
def MessageKind.ofJson? : Json → Option MessageKind :=
  Json.ofTable? table

/-- The JSON form of a message record. -/
def Message.toJson (m : Message) : Json :=
  .obj [("id", m.id.toJson), ("instance_id", m.owner.toJson), ("to", .text m.recipient),
    ("kind", m.kind.toJson), ("payload", .text m.payload), ("status", m.status.toJson),
    ("created_at", m.created.toJson), ("updated_at", m.updated.toJson)]

/-- The message record of a JSON form. -/
def Message.ofJson? (v : Json) : Option Message := do
  let [id, owner, recipient, kind, payload, status, created, updated] ← v.slots?
    ["id", "instance_id", "to", "kind", "payload", "status", "created_at", "updated_at"] | none
  return {
    id := ← id.required? Id.ofJson?
    owner := ← owner.required? InstanceId.ofJson?
    recipient := ← recipient.required? Json.asText?
    kind := ← kind.required? MessageKind.ofJson?
    payload := ← payload.required? Json.asText?
    status := ← status.required? MessageStatus.ofJson?
    created := ← created.required? Timestamp.ofJson?
    updated := ← updated.required? Timestamp.ofJson? }

/-- The JSON form of counts. -/
def MessageCounts.toJson (c : MessageCounts) : Json :=
  .obj [("queued", .nat c.queued), ("sending", .nat c.sending), ("sent", .nat c.sent),
    ("failed", .nat c.failed)]

/-- The counts of a JSON form. -/
def MessageCounts.ofJson? (v : Json) : Option MessageCounts := do
  let [queued, sending, sent, failed] ← v.slots? ["queued", "sending", "sent", "failed"] | none
  return {
    queued := ← queued.required? (Json.asNat? bound64)
    sending := ← sending.required? (Json.asNat? bound64)
    sent := ← sent.required? (Json.asNat? bound64)
    failed := ← failed.required? (Json.asNat? bound64) }

/-- The JSON form of a queue event. -/
def QueueEvent.toJson (e : QueueEvent) : Json :=
  .obj [("id", e.id.toJson), ("instance_id", e.owner.toJson), ("type", .text e.kind),
    ("payload", (Value.map e.payload).toJson), ("created_at", e.created.toJson)]

/-- How deep the values of an event's map may be nested, the map itself among them. -/
def QueueEvent.payloadDepth : Nat := 126

/-- The members of the map that a document is. -/
def QueueEvent.payload? (v : Json) : Option (List (String × Value)) :=
  match Value.ofJson? payloadDepth v with
  | some (.map members) => some members
  | _ => none

/-- The queue event of a JSON form. -/
def QueueEvent.ofJson? (v : Json) : Option QueueEvent := do
  let [id, owner, kind, payload, created] ←
    v.slots? ["id", "instance_id", "type", "payload", "created_at"] | none
  return {
    id := ← id.required? Id.ofJson?
    owner := ← owner.required? InstanceId.ofJson?
    kind := ← kind.required? Json.asText?
    payload := ← payload.required? payload?
    created := ← created.required? Timestamp.ofJson? }

/-- The JSON form of a submission. -/
def EnqueueInput.toJson (input : EnqueueInput) : Json :=
  .obj [("instance_id", input.owner.toJson), ("to", .text input.recipient),
    ("type", .text input.kind), ("text", .text input.text)]

/-- The submission of a JSON form. -/
def EnqueueInput.ofJson? (v : Json) : Option EnqueueInput := do
  let [owner, recipient, kind, text] ← v.slots? ["instance_id", "to", "type", "text"] | none
  return {
    owner := ← owner.required? InstanceId.ofJson?
    recipient := ← recipient.required? Json.asText?
    kind := ← kind.required? Json.asText?
    text := ← text.required? Json.asText? }

end MessageGateway
